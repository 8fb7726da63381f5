import Mathlib.Data.List.Nodup
import NextRelease.Proofs.Commit.Counts
import NextRelease.Proofs.Notes.ReadBack

/-!
# Headings of release notes

Lines are told apart by their first characters, and layout sees to it that the text of a commit
never brings a heading or an item: its first line stands behind a dash, and the others are indented
or empty. So the headings are those of the categories that are present, once each, and under each
of them stand as many items as the category has commits.
-/

namespace NextRelease.Notes

open Text

/-- The heading line of a category. -/
def headingLine (emoji : Bool) (category : Category) : Text :=
  "## ".toList ++ sectionHeading emoji category

/-- The line begins as the heading of a section. -/
def isHeading (line : Text) : Bool := "## ".toList.isPrefixOf line

/-- The line begins as an item. -/
def isItem (line : Text) : Bool := "- ".toList.isPrefixOf line

/-- The number of items between a heading line and the next one, or the end. -/
def itemsUnder (heading : Text) (document : List Text) : Nat :=
  (((document.dropWhile (· ≠ heading)).drop 1).takeWhile (!isHeading ·)).countP isItem

/-! ## What the lines begin with -/

theorem isHeading_headingLine (emoji : Bool) (category : Category) :
    isHeading (headingLine emoji category) = true := rfl

/-- No two categories share a heading line. -/
theorem headingLine_injective (emoji : Bool) : Function.Injective (headingLine emoji) := by
  intro c d hcd
  have hrole := congrArg roleOf hcd
  unfold headingLine at hrole
  rw [roleOf_headingLine, roleOf_headingLine] at hrole
  exact LineRole.heading.inj hrole

theorem isHeading_titleLine (title version : Text) : isHeading (titleLine title version) = false :=
  rfl

theorem isHeading_continuation (line : Text) : isHeading (continuation line) = false := by
  unfold continuation
  split
  · rfl
  · rfl

theorem isItem_continuation (line : Text) : isItem (continuation line) = false := by
  unfold continuation
  split
  · rfl
  · rfl

/-! ## Items -/

/-- No line of a message looks like a heading. -/
theorem isHeading_of_mem_item {message line : Text} (h : line ∈ item message) :
    isHeading line = false := by
  obtain ⟨first, rest, hlines⟩ := List.exists_cons_of_ne_nil (lines_ne_nil (trim message))
  rw [item_eq hlines] at h
  rcases List.mem_cons.mp h with rfl | h
  · rfl
  · obtain ⟨line, _, rfl⟩ := List.mem_map.mp h
    exact isHeading_continuation line

/-- Only the first line of a message looks like an item. -/
theorem countP_isItem_item (message : Text) : (item message).countP isItem = 1 := by
  obtain ⟨first, rest, hlines⟩ := List.exists_cons_of_ne_nil (lines_ne_nil (trim message))
  have hrest : (rest.map continuation).countP isItem = 0 := by
    rw [List.countP_eq_zero]
    intro line hline
    obtain ⟨line, _, rfl⟩ := List.mem_map.mp hline
    simp [isItem_continuation]
  have hfirst : isItem ("- ".toList ++ trimRight first) = true := rfl
  rw [item_eq hlines, List.countP_cons_of_pos hfirst, hrest]

/-! ## Sections -/

/-- The lines of a section under its heading. -/
def sectionBody (members : List Commit) : List Text :=
  [] :: members.flatMap (fun commit => item commit.message) ++ [[]]

theorem sectionLines_eq_cons (emoji : Bool) (group : Category × List Commit) :
    sectionLines emoji group = headingLine emoji group.1 :: sectionBody group.2 := rfl

theorem isHeading_of_mem_sectionBody {members : List Commit} {line : Text}
    (h : line ∈ sectionBody members) : isHeading line = false := by
  simp only [sectionBody, List.cons_append, List.mem_cons, List.mem_append, List.mem_flatMap,
    List.not_mem_nil, or_false] at h
  rcases h with rfl | ⟨commit, _, h⟩ | rfl
  · rfl
  · exact isHeading_of_mem_item h
  · rfl

/-- A section has as many items as commits. -/
theorem countP_isItem_sectionBody (members : List Commit) :
    (sectionBody members).countP isItem = members.length := by
  have hitems : (members.flatMap fun commit => item commit.message).countP isItem =
      members.length := by
    induction members with
    | nil => rfl
    | cons commit members ih =>
      rw [List.flatMap_cons, List.countP_append, countP_isItem_item, ih, List.length_cons]
      omega
  have hempty : isItem [] = false := rfl
  simp [sectionBody, hempty, hitems]

theorem filter_isHeading_sections (emoji : Bool) (groups : List (Category × List Commit)) :
    (groups.flatMap (sectionLines emoji)).filter isHeading =
      groups.map fun group => headingLine emoji group.1 := by
  induction groups with
  | nil => rfl
  | cons group groups ih =>
    have hbody : (sectionBody group.2).filter isHeading = [] := by
      rw [List.filter_eq_nil_iff]
      intro line hline
      simp [isHeading_of_mem_sectionBody hline]
    rw [List.flatMap_cons, List.filter_append, sectionLines_eq_cons,
      List.filter_cons_of_pos (isHeading_headingLine emoji group.1), hbody, ih]
    rfl

/-! ## Items under a heading -/

theorem itemsUnder_cons_self (heading : Text) (rest : List Text) :
    itemsUnder heading (heading :: rest) = (rest.takeWhile (!isHeading ·)).countP isItem := by
  simp [itemsUnder]

theorem itemsUnder_cons_of_ne {heading line : Text} (h : line ≠ heading) (rest : List Text) :
    itemsUnder heading (line :: rest) = itemsUnder heading rest := by
  simp [itemsUnder, h]

/-- Lines that are no headings say nothing of what stands under a heading further down. -/
theorem itemsUnder_append {heading : Text} (hheading : isHeading heading = true)
    {front : List Text} (hfront : ∀ line ∈ front, isHeading line = false) (rest : List Text) :
    itemsUnder heading (front ++ rest) = itemsUnder heading rest := by
  -- The heading sought is none of the lines in front, because those are no headings at all.
  induction front with
  | nil => rfl
  | cons line front ih =>
    have hne : line ≠ heading := by
      rintro rfl
      simp [hfront line List.mem_cons_self] at hheading
    rw [List.cons_append, itemsUnder_cons_of_ne hne,
      ih fun line hline => hfront line (List.mem_cons_of_mem _ hline)]

/-- The part of a document up to the next heading ends with the section. -/
theorem takeWhile_sectionBody_append (emoji : Bool) (members : List Commit)
    (groups : List (Category × List Commit)) :
    (sectionBody members ++ groups.flatMap (sectionLines emoji)).takeWhile (!isHeading ·) =
      sectionBody members := by
  have hnext : (groups.flatMap (sectionLines emoji)).takeWhile (!isHeading ·) = [] := by
    cases groups with
    | nil => rfl
    | cons group groups => simp [sectionLines_eq_cons, isHeading_headingLine]
  rw [List.takeWhile_append_of_pos fun line hline => by simp [isHeading_of_mem_sectionBody hline],
    hnext, List.append_nil]

theorem itemsUnder_sections (emoji : Bool) (members : Category → List Commit) (category : Category)
    (categories : List Category) :
    itemsUnder (headingLine emoji category)
        ((categories.map fun c => (c, members c)).flatMap (sectionLines emoji)) =
      if category ∈ categories then (members category).length else 0 := by
  induction categories with
  | nil => rfl
  | cons c categories ih =>
    rw [List.map_cons, List.flatMap_cons, sectionLines_eq_cons, List.cons_append]
    -- The first section of the category decides, so the sections after it do not matter.
    by_cases hc : c = category
    · subst hc
      rw [itemsUnder_cons_self, takeWhile_sectionBody_append, countP_isItem_sectionBody]
      simp
    · rw [itemsUnder_cons_of_ne ((headingLine_injective emoji).ne hc),
        itemsUnder_append (isHeading_headingLine emoji category)
          fun line hline => isHeading_of_mem_sectionBody hline, ih]
      simp [Ne.symm hc]

/-! ## The whole document -/

/-- The headings are those of the categories that have a commit, in section order. -/
theorem filter_isHeading_lines_render {version title : Text} (h : '\n' ∉ titleLine title version)
    (commits : List Commit) (emoji : Bool) :
    (lines (render version commits title emoji)).filter isHeading =
      (Category.all.filter fun category => commits.any (·.category = category)).map
        (headingLine emoji) := by
  have htitle : ¬isHeading (titleLine title version) = true := by simp [isHeading_titleLine]
  rw [lines_render h, List.filter_cons_of_neg htitle]
  unfold bodyLines
  split
  · next hcommits =>
    subst hcommits
    rfl
  · have hempty : ¬isHeading [] = true := by decide
    rw [List.filter_cons_of_neg hempty, filter_isHeading_sections, sections_eq, List.map_map]
    rfl

/-- Under the heading of a category stand as many items as it has commits. -/
theorem itemsUnder_lines_render {version title : Text} (h : '\n' ∉ titleLine title version)
    (commits : List Commit) (emoji : Bool) (category : Category) :
    itemsUnder (headingLine emoji category) (lines (render version commits title emoji)) =
      (Counts.ofCommits commits).get category := by
  have hheading := isHeading_headingLine emoji category
  rw [lines_render h, Counts.get_ofCommits]
  unfold bodyLines
  split
  · next hcommits =>
    -- Without commits no line is a heading.
    subst hcommits
    have hnone : ∀ line ∈ [titleLine title version, [], noChanges, []],
        isHeading line = false := by
      intro line hline
      simp only [List.mem_cons, List.not_mem_nil, or_false] at hline
      rcases hline with rfl | rfl | rfl | rfl
      · rfl
      · rfl
      · rfl
      · rfl
    have hunder := itemsUnder_append hheading hnone []
    rwa [List.append_nil] at hunder
  · have hfront : ∀ line ∈ [titleLine title version, []], isHeading line = false := by
      intro line hline
      simp only [List.mem_cons, List.not_mem_nil, or_false] at hline
      rcases hline with rfl | rfl
      · rfl
      · rfl
    have hunder := itemsUnder_append hheading hfront
      ((sections commits).flatMap (sectionLines emoji))
    rw [List.cons_append, List.singleton_append] at hunder
    rw [hunder, sections_eq, itemsUnder_sections, List.countP_eq_length_filter]
    split
    · rfl
    · next habsent =>
      symm
      simpa [Category.mem_all, List.filter_eq_nil_iff] using habsent

theorem headingLine_mem_lines_render {version title : Text}
    (h : '\n' ∉ titleLine title version) (commits : List Commit) (emoji : Bool)
    (category : Category) :
    headingLine emoji category ∈ lines (render version commits title emoji) ↔
      0 < (Counts.ofCommits commits).get category := by
  have hheadings : headingLine emoji category ∈ lines (render version commits title emoji) ↔
      headingLine emoji category ∈
        (lines (render version commits title emoji)).filter isHeading := by
    simp [List.mem_filter, isHeading_headingLine]
  rw [hheadings, filter_isHeading_lines_render h,
    List.mem_map_of_injective (headingLine_injective emoji), Counts.get_ofCommits_pos]
  simp [Category.mem_all]

/-- No heading stands twice in release notes. -/
theorem count_headingLine_le_one {version title : Text} (h : '\n' ∉ titleLine title version)
    (commits : List Commit) (emoji : Bool) (category : Category) :
    (lines (render version commits title emoji)).count (headingLine emoji category) ≤ 1 := by
  have hnodup : ((lines (render version commits title emoji)).filter isHeading).Nodup := by
    rw [filter_isHeading_lines_render h]
    have hcategories : Category.all.Nodup := by decide
    exact (hcategories.filter _).map (headingLine_injective emoji)
  rw [← List.count_filter (isHeading_headingLine emoji category)]
  exact List.nodup_iff_count.mp hnodup _

/-- Only notes of no commits have no heading. -/
theorem exists_isHeading_lines_render {version title : Text} (h : '\n' ∉ titleLine title version)
    (commits : List Commit) (emoji : Bool) :
    (∃ line ∈ lines (render version commits title emoji), isHeading line = true) ↔
      commits ≠ [] := by
  have hfilter := filter_isHeading_lines_render h commits emoji
  constructor
  · rintro ⟨line, hline, hheading⟩ rfl
    have hmem := List.mem_filter.mpr ⟨hline, hheading⟩
    rw [hfilter] at hmem
    simp at hmem
  · intro hne
    obtain ⟨commit, rest, rfl⟩ := List.exists_cons_of_ne_nil hne
    refine ⟨headingLine emoji commit.category, ?_, isHeading_headingLine emoji commit.category⟩
    rw [headingLine_mem_lines_render h, Counts.get_ofCommits_pos]
    exact ⟨commit, List.mem_cons_self, rfl⟩

end NextRelease.Notes
