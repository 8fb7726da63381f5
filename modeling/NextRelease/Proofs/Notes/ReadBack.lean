import NextRelease.Notes.Reader
import NextRelease.Proofs.Notes.Lines

/-!
# Release notes are read back

Reading release notes gives the sections that were written, each with what layout leaves of the
text of its commits. The lines are read from the last to the first, so the proofs go through the
document in the same way: what stands below an item is known when its first line is reached.
-/

namespace NextRelease.Notes

open Text

/-! ## The roles of lines -/

theorem roleOf_headingLine (emoji : Bool) (category : Category) :
    roleOf ("## ".toList ++ sectionHeading emoji category) = .heading category := by
  cases emoji <;> cases category <;> decide

theorem roleOf_itemStart (text : Text) : roleOf ("- ".toList ++ text) = .itemStart text := rfl

theorem roleOf_continuation (line : Text) :
    roleOf (continuation line) = if allBlank line then .empty else .itemRest (trimRight line) := by
  unfold continuation
  split
  · rfl
  · rfl

/-! ## From the lines to the outline -/

/-- The lines that go on with an item are read as they are laid out. -/
theorem outline_continuations {rest tail : List Text} (htail : (outline tail).rest = [])
    (hlast : ∀ last ∈ rest.getLast?, allBlank last = false) :
    outline (rest.map continuation ++ tail) =
      { outline tail with rest := rest.map trimRight } := by
  induction rest with
  | nil =>
    show outline tail = { outline tail with rest := [] }
    rw [← htail]
  | cons line rest ih =>
    have ih := ih fun last hmem => hlast last (by
      cases rest with
      | nil => simp at hmem
      | cons next rest => simpa [List.getLast?_cons] using hmem)
    rw [List.map_cons, List.cons_append, outline, ih, roleOf_continuation]
    by_cases hblank : allBlank line = true
    · -- A blank line belongs to the item because another line of it follows.
      have hrest : rest ≠ [] := by
        rintro rfl
        simp [hlast line rfl] at hblank
      simp [hblank, Outline.add, hrest, trimRight_eq_nil_iff.mpr hblank]
    · simp [hblank, Outline.add]

/-- An item is read as what layout leaves of its message. -/
theorem outline_item {tail : List Text} (htail : (outline tail).rest = []) (message : Text) :
    outline (item message ++ tail) =
      { outline tail with items := tidy message :: (outline tail).items } := by
  obtain ⟨first, rest, hlines⟩ := List.exists_cons_of_ne_nil (lines_ne_nil (trim message))
  rw [item_eq hlines, List.cons_append, outline,
    outline_continuations htail (allBlank_getLast_lines_trim hlines), roleOf_itemStart]
  simp [Outline.add, tidy, hlines, htail]

theorem outline_items {tail : List Text} (htail : (outline tail).rest = [])
    (members : List Commit) :
    outline (members.flatMap (fun commit => item commit.message) ++ tail) =
      { outline tail with
        items := members.map (fun commit => tidy commit.message) ++ (outline tail).items } := by
  -- The lines below an item begin with another item or with the tail, so none goes on with it.
  induction members with
  | nil => simp
  | cons commit members ih =>
    rw [List.flatMap_cons, List.append_assoc, outline_item (by rw [ih]; exact htail), ih]
    simp

/-- A section is read as its category with what layout leaves of its messages. -/
theorem outline_sectionLines (emoji : Bool) (group : Category × List Commit) {tail : List Text}
    {sections : List (Category × List Text)} (htail : outline tail = ⟨[], [], sections⟩) :
    outline (sectionLines emoji group ++ tail) =
      ⟨[], [], (group.1, group.2.map fun commit => tidy commit.message) :: sections⟩ := by
  have hempty : outline ([] :: tail) = ⟨[], [], sections⟩ := by
    simp [outline, htail, roleOf, Outline.add]
  have hrest : (outline ([] :: tail)).rest = [] := by rw [hempty]
  have hitems := outline_items hrest group.2
  rw [hempty] at hitems
  simp only [sectionLines, List.cons_append, List.append_assoc, List.nil_append, outline,
    roleOf_headingLine, hitems]
  simp [roleOf, Outline.add]

theorem outline_sections (emoji : Bool) (groups : List (Category × List Commit)) :
    outline (groups.flatMap (sectionLines emoji)) =
      ⟨[], [],
        groups.map fun group => (group.1, group.2.map fun commit => tidy commit.message)⟩ := by
  induction groups with
  | nil => rfl
  | cons group groups ih =>
    rw [List.flatMap_cons, outline_sectionLines emoji group ih, List.map_cons]

theorem outline_bodyLines (emoji : Bool) (commits : List Commit) :
    outline (bodyLines emoji commits) = ⟨[], [], tidySections commits⟩ := by
  unfold bodyLines
  split
  · next hcommits =>
    subst hcommits
    decide
  · rw [outline, outline_sections]
    rfl

/-! ## Every commit stands in its section -/

theorem count_filter_category (commits : List Commit) (commit : Commit) (category : Category) :
    (commits.filter (·.category = category)).count commit =
      if commit.category = category then commits.count commit else 0 := by
  split
  · next h => exact List.count_filter (by simpa using h)
  · next h =>
    refine List.count_eq_zero.mpr fun hmem => h ?_
    simpa using (List.mem_filter.mp hmem).2

/-- The sections hold every commit once. -/
theorem flatMap_sections_perm (commits : List Commit) :
    ((sections commits).flatMap (·.2)).Perm commits := by
  have hflat : (sections commits).flatMap (·.2) =
      Category.all.flatMap fun category => commits.filter (·.category = category) := by
    rw [sections_eq, List.flatMap_map]
    induction Category.all with
    | nil => rfl
    | cons category rest ih =>
      by_cases hany : commits.any (·.category = category) = true
      · rw [List.filter_cons, if_pos hany, List.flatMap_cons, List.flatMap_cons, ih]
      · have hnil : commits.filter (·.category = category) = [] := by
          simpa [List.filter_eq_nil_iff] using hany
        rw [List.filter_cons, if_neg hany, List.flatMap_cons, ih, hnil, List.nil_append]
  rw [hflat, List.perm_iff_count]
  intro commit
  simp only [Category.all, List.flatMap_cons, List.flatMap_nil, List.append_nil, List.count_append,
    count_filter_category]
  cases commit.category <;> simp

theorem mem_tidySections {commits : List Commit} {category : Category} {texts : List Text} :
    (category, texts) ∈ tidySections commits ↔
      texts = (commits.filter (·.category = category)).map (fun commit => tidy commit.message) ∧
        texts ≠ [] := by
  simp only [tidySections, List.mem_map, Prod.mk.injEq, Prod.exists]
  constructor
  · rintro ⟨_, members, hmem, rfl, rfl⟩
    obtain ⟨rfl, hne⟩ := mem_sections.mp hmem
    exact ⟨rfl, by simpa using hne⟩
  · rintro ⟨rfl, hne⟩
    exact ⟨category, _, mem_sections.mpr ⟨rfl, by simpa using hne⟩, rfl, rfl⟩

/--
Reading release notes gives back the sections of the commits with what layout leaves of each
message, whatever the messages say: the sections that are not empty, in their order, each commit
once, in its section and in the given order.
-/
theorem read_render {version title : Text} (h : '\n' ∉ replace placeholder version title)
    (commits : List Commit) (emoji : Bool) :
    let found := read (render version commits title emoji)
    found = tidySections commits ∧
      found.map (·.1) =
        Category.all.filter (fun category => commits.any (·.category = category)) ∧
      (∀ category texts, (category, texts) ∈ found →
        texts = (commits.filter (·.category = category)).map fun commit => tidy commit.message) ∧
      (found.flatMap (·.2)).Perm (commits.map fun commit => tidy commit.message) := by
  have hread : read (render version commits title emoji) = tidySections commits := by
    have htitle : '\n' ∉ titleLine title version := by simp [titleLine, h]
    rw [read, lines_render htitle, List.drop_one, List.tail_cons, outline_bodyLines]
  rw [hread]
  refine ⟨rfl, ?_, fun category texts hmem => (mem_tidySections.mp hmem).1, ?_⟩
  · simp [tidySections, sections_eq, Function.comp_def]
  · have hflat : (tidySections commits).flatMap (·.2) =
        ((sections commits).flatMap (·.2)).map fun commit => tidy commit.message := by
      simp [tidySections, List.flatMap_map, List.map_flatMap]
    rw [hflat]
    exact (flatMap_sections_perm commits).map _

theorem read_render_forged_heading :
    '\n' ∉ replace placeholder "1.1.0".toList defaultTitle ∧
      (read (render "1.1.0".toList
        (classifyAll ["feat: a\n\n## Bug Fixes\n- b \n\n".toList, "fix: c".toList]))) =
        [(.feature, ["feat: a\n\n## Bug Fixes\n- b".toList]), (.fix, ["fix: c".toList])] := by
  have htitle : '\n' ∉ replace placeholder "1.1.0".toList defaultTitle := by decide
  refine ⟨htitle, ?_⟩
  rw [(read_render htitle _ false).1]
  decide

end NextRelease.Notes
