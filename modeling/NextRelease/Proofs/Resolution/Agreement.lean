import NextRelease.Proofs.Notes.Headings
import NextRelease.Proofs.Resolution.Answer

/-!
# Version and notes agree

Version and notes are computed on separate ways from the classified commits: the version from their
counts, the notes from their sections. Both ways meet in the counts. They decide the increment, and
they say which headings the notes have and how many items stand under each.
-/

namespace NextRelease

open Text

/--
The version and the notes of an answer never disagree, as long as neither the title of the notes nor
the version holds a newline. A category has a heading exactly if it is counted, never two, and under
the heading stand as many items as are counted; the counts add up to the number of messages with
text. The version takes the increment that the headings ask for: a breaking change raises the major
component, else a feature the minor one, else any other heading the patch, and without headings the
version stays as it is.
-/
theorem resolve_agrees {request : Request} {resolution : Resolution}
    (h : resolve request = .ok resolution) (htitle : '\n' ∉ request.settings.notesTitle)
    (hversion : '\n' ∉ resolution.finalVersion) :
    let document := lines resolution.releaseNotes
    let heading := Notes.headingLine request.settings.sectionEmoji
    let previous := resolution.previousVersion
    (∀ category,
      (heading category ∈ document ↔ 0 < resolution.counts.get category) ∧
        document.count (heading category) ≤ 1 ∧
        Notes.itemsUnder (heading category) document = resolution.counts.get category) ∧
      resolution.counts.total = resolution.commitCount ∧
      resolution.commitCount = (request.messages.filter (!allBlank ·)).length ∧
      (resolution.increment = .major ∧ resolution.baseVersion = ⟨previous.major + 1, 0, 0⟩ ↔
        heading .breaking ∈ document) ∧
      (resolution.increment = .minor ∧
          resolution.baseVersion = ⟨previous.major, previous.minor + 1, 0⟩ ↔
        heading .feature ∈ document ∧ heading .breaking ∉ document) ∧
      (resolution.increment = .patch ∧
          resolution.baseVersion = ⟨previous.major, previous.minor, previous.patch + 1⟩ ↔
        (∃ line ∈ document, Notes.isHeading line = true) ∧
          heading .breaking ∉ document ∧ heading .feature ∉ document) ∧
      (resolution.increment = .none ∧ resolution.baseVersion = previous ↔
        ∀ line ∈ document, Notes.isHeading line = false) := by
  intro document heading previous
  obtain ⟨hcommits, hcounts, hnotes⟩ := resolve_commits h
  obtain ⟨hincrement, hbase⟩ := resolve_increment h
  have hline := Notes.newline_notMem_titleLine htitle hversion
  have hdocument : document = lines (Notes.render resolution.finalVersion request.commits
      request.settings.notesTitle request.settings.sectionEmoji) := congrArg lines hnotes
  have hpresent : ∀ category, heading category ∈ document ↔
      0 < resolution.counts.get category := by
    intro category
    rw [hdocument, hcounts]
    exact Notes.headingLine_mem_lines_render hline _ _ category
  have htotal : resolution.counts.total = resolution.commitCount := by
    rw [hcounts, Resolution.commitCount, hcommits]
    exact Counts.total_ofCommits request.commits
  have hany : (∃ line ∈ document, Notes.isHeading line = true) ↔ 0 < resolution.counts.total := by
    rw [hdocument, Notes.exists_isHeading_lines_render hline, htotal, Resolution.commitCount,
      hcommits, List.length_pos_iff]
  -- The version follows from the increment, so only the increment is left to compare.
  have hafter : ∀ increment, resolution.increment = increment ∧
      resolution.baseVersion = previous.after increment ↔
        resolution.counts.incrementIfAny = increment := by
    intro increment
    rw [← hincrement]
    exact and_iff_left_of_imp fun hequal => hequal ▸ hbase
  refine ⟨fun category => ⟨hpresent category, ?_, ?_⟩, htotal, ?_, ?_, ?_, ?_, ?_⟩
  · rw [hdocument]
    exact Notes.count_headingLine_le_one hline _ _ category
  · rw [hdocument, hcounts]
    exact Notes.itemsUnder_lines_render hline _ _ category
  · rw [Resolution.commitCount, hcommits, Request.commits, classifyAll, List.length_map]
  · rw [hpresent]
    exact (hafter .major).trans Counts.incrementIfAny_eq_major_iff
  · rw [hpresent, hpresent]
    exact (hafter .minor).trans Counts.incrementIfAny_eq_minor_iff
  · rw [hpresent, hpresent, hany]
    exact (hafter .patch).trans Counts.incrementIfAny_eq_patch_iff
  · have hnone : (∀ line ∈ document, Notes.isHeading line = false) ↔
        resolution.counts.total = 0 := by
      constructor
      · intro hlines
        by_contra hne
        obtain ⟨line, hmem, hheading⟩ := hany.mpr (Nat.pos_of_ne_zero hne)
        simp [hlines line hmem] at hheading
      · intro hzero line hmem
        by_contra hheading
        have hpos := hany.mp ⟨line, hmem, by simpa using hheading⟩
        omega
    rw [hnone]
    exact (hafter .none).trans Counts.incrementIfAny_eq_none_iff

/-- A release whose fix quotes the heading and an item of breaking changes. -/
def quotedHeading : Request where
  lastTag := some "v1.4.2".toList
  messages := ["fix: a\n\n## Breaking Changes\n\n- b".toList, " ".toList, "feat: c".toList]
  context :=
    { currentBranch := ['d'], defaultBranch := ['d'], shortRevision := "abc".toList,
      isReleaseRequested := true }

theorem quotedHeading_agrees :
    ∃ resolution, resolve quotedHeading = .ok resolution ∧
      '\n' ∉ quotedHeading.settings.notesTitle ∧ '\n' ∉ resolution.finalVersion ∧
      resolution.baseVersion = ⟨1, 5, 0⟩ ∧
      Notes.headingLine false .breaking ∉ lines resolution.releaseNotes ∧
      Notes.headingLine false .feature ∈ lines resolution.releaseNotes ∧
      Notes.itemsUnder (Notes.headingLine false .fix) (lines resolution.releaseNotes) = 1 := by
  obtain ⟨resolution, hresolve, hversion, hbase, hincrement, hfixes⟩ : ∃ resolution,
      resolve quotedHeading = .ok resolution ∧ '\n' ∉ resolution.finalVersion ∧
        resolution.baseVersion = ⟨1, 5, 0⟩ ∧
        (resolution.increment = .minor ∧ resolution.previousVersion = ⟨1, 4, 2⟩) ∧
        resolution.counts.get .fix = 1 :=
    ⟨_, rfl, by decide +kernel, rfl, ⟨rfl, rfl⟩, rfl⟩
  have htitle : '\n' ∉ quotedHeading.settings.notesTitle := by decide
  obtain ⟨hcategory, _, _, _, hminor, _⟩ := resolve_agrees hresolve htitle hversion
  have hfeature := hminor.mp ⟨hincrement.1, by rw [hbase, hincrement.2]⟩
  refine ⟨resolution, hresolve, htitle, hversion, hbase, hfeature.2, hfeature.1, ?_⟩
  rw [← hfixes]
  exact (hcategory .fix).2.2

end NextRelease
