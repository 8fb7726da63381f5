import NextRelease.Proofs.Notes.Tidy
import NextRelease.Proofs.Resolution.Answer

/-!
# Layout does not change a resolution

To resolve tidied messages is to resolve the messages and to tidy the commits of the answer: the
categories of the commits, and with them the counts and the version, stay the same, and so do the
notes. Messages that layout leaves the same are therefore resolved alike, and carriage returns
before newlines do not matter.
-/

namespace NextRelease

open Text

/-- An answer with what layout leaves of the messages of its commits. -/
def Resolution.tidied (resolution : Resolution) : Resolution :=
  { resolution with commits := resolution.commits.map Commit.tidied }

theorem Counts.ofCommits_map_tidied (commits : List Commit) :
    ofCommits (commits.map Commit.tidied) = ofCommits commits := by
  simp only [ofCommits, List.countP_map]
  rfl

namespace Request

/-- The request with what layout leaves of its messages. -/
def tidied (request : Request) : Request :=
  { request with messages := request.messages.map tidy }

variable (request : Request)

theorem commits_tidied : request.tidied.commits = request.commits.map Commit.tidied :=
  classifyAll_map_tidy request.messages

theorem counts_tidied : request.tidied.counts = request.counts := by
  rw [counts, commits_tidied, Counts.ofCommits_map_tidied, counts]

theorem notes_tidied (version : Text) : request.tidied.notes version = request.notes version := by
  rw [notes, commits_tidied]
  exact Notes.render_map_tidied _ _ _ _

theorem unchangedAnswer_tidied (reading : TagReading) :
    request.tidied.unchangedAnswer reading = (request.unchangedAnswer reading).tidied := by
  rw [unchangedAnswer, notes_tidied]
  rfl

theorem changedAnswer_tidied (reading : TagReading) (reason : Text) :
    request.tidied.changedAnswer reading reason = (request.changedAnswer reading reason).tidied := by
  rw [changedAnswer, notes_tidied, counts_tidied, commits_tidied]
  rfl

end Request

/-- Tidying before a resolution and after it is the same. -/
theorem resolve_tidied (request : Request) :
    resolve request.tidied = Resolution.tidied <$> resolve request := by
  have hnone : request.tidied.commits = [] ↔ request.commits = [] := by
    rw [Request.commits_tidied, List.map_eq_nil_iff]
  rw [← id_map (resolve request.tidied)]
  exact map_resolve_eq rfl rfl hnone request.counts_tidied
    (fun _ => request.unchangedAnswer_tidied) request.changedAnswer_tidied

theorem map_tidied_resolve_congr {request : Request} {xs ys : List Text}
    (h : xs.map tidy = ys.map tidy) :
    Resolution.tidied <$> resolve { request with messages := xs } =
      Resolution.tidied <$> resolve { request with messages := ys } := by
  rw [← resolve_tidied, ← resolve_tidied, Request.tidied, Request.tidied, h]

theorem map_tidy_withCarriageReturns (messages : List Text) :
    (messages.map withCarriageReturns).map tidy = messages.map tidy := by
  rw [List.map_map]
  exact List.map_congr_left fun message _ => tidy_withCarriageReturns message

/--
Layout never changes a resolution. Under one tag, context and settings, messages that layout leaves
the same fail alike or have answers that differ only in the layout of the messages of their commits.
The category of a message is that of what layout leaves of it, so messages with carriage returns
before their newlines have the answer of those without, and a message that is read back from under
the title of the notes belongs to the section it stands in.
-/
theorem resolve_layout {request : Request} {xs ys : List Text} (h : xs.map tidy = ys.map tidy) :
    Resolution.tidied <$> resolve { request with messages := xs } =
        Resolution.tidied <$> resolve { request with messages := ys } ∧
      (∀ message, classify (tidy message) = classify message) ∧
      Resolution.tidied <$> resolve { request with messages := xs.map withCarriageReturns } =
        Resolution.tidied <$> resolve { request with messages := xs } ∧
      ∀ resolution, resolve { request with messages := xs } = .ok resolution →
        let title := Notes.titleLine request.settings.notesTitle resolution.finalVersion
        let found := Notes.readUnder title resolution.releaseNotes
        found = Notes.tidySections resolution.commits ∧
          (∀ category texts, (category, texts) ∈ found →
            ∀ text ∈ texts, classify text = category) ∧
          ('\n' ∉ title → found = Notes.read resolution.releaseNotes) := by
  refine ⟨map_tidied_resolve_congr h, classify_tidy_eq, ?_, ?_⟩
  · exact map_tidied_resolve_congr (map_tidy_withCarriageReturns xs)
  · intro resolution hresolve title found
    obtain ⟨hcommits, _, hnotes⟩ := resolve_commits hresolve
    have hfound : found = Notes.tidySections resolution.commits := by
      rw [hcommits]
      show Notes.readUnder title resolution.releaseNotes = _
      rw [hnotes]
      exact Notes.readUnder_render _ _ _ _
    refine ⟨hfound, fun category texts hmem text htext => ?_,
      fun htitle => Notes.readUnder_eq_read htitle _⟩
    rw [hfound, hcommits] at hmem
    exact Notes.classify_of_mem_tidySections hmem htext

/-- A release under a title that brings a heading and an item. -/
def titledRelease : Request where
  lastTag := some "v1.4.2".toList
  messages := []
  context :=
    { currentBranch := ['d'], defaultBranch := ['d'], shortRevision := "abc".toList,
      isReleaseRequested := true }
  settings := { notesTitle := "Notes\n## Bug Fixes\n- feat: c".toList }

/-- A breaking change with a blank message after it. -/
def plainMessages : List Text := ["feat: a\n\nBreaking change: b".toList, []]

/-- The same with carriage returns, further blanks and further lines. -/
def spacedMessages : List Text :=
  ["\r\n  feat: a\t\r\n \r\nBreaking change: b\r\n\r\n".toList, "\u2003".toList]

theorem spacedMessages_layout :
    plainMessages.map tidy = spacedMessages.map tidy ∧
      ∃ resolution,
        resolve { titledRelease with messages := plainMessages } = .ok resolution ∧
        Resolution.tidied <$> resolve { titledRelease with messages := spacedMessages } =
          .ok resolution.tidied ∧
        Notes.readUnder (Notes.titleLine titledRelease.settings.notesTitle resolution.finalVersion)
            resolution.releaseNotes = [(.breaking, ["feat: a\n\nBreaking change: b".toList])] := by
  have hsame : plainMessages.map tidy = spacedMessages.map tidy := by decide
  obtain ⟨resolution, hresolve, hsections⟩ : ∃ resolution,
      resolve { titledRelease with messages := plainMessages } = .ok resolution ∧
        Notes.tidySections resolution.commits =
          [(.breaking, ["feat: a\n\nBreaking change: b".toList])] := ⟨_, rfl, rfl⟩
  obtain ⟨hequal, _, _, hread⟩ := @resolve_layout titledRelease _ _ hsame
  refine ⟨hsame, resolution, hresolve, ?_, ?_⟩
  · rw [← hequal, hresolve]
    rfl
  · rw [← hsections]
    exact (hread resolution hresolve).1

end NextRelease
