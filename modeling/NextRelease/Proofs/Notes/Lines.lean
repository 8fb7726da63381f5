import NextRelease.Notes.Basic
import NextRelease.Proofs.Text.Trim

/-!
# The lines of release notes

Release notes are the title line and the lines of their body joined, whatever the commits say: no
line of the body holds a newline, and the last line of every section has text, so that dropping the
newlines at the end takes off the empty line after the last section and nothing else.
-/

namespace NextRelease.Notes

open Text

/-! ## Items -/

/-- An item has a line for every line of the trimmed message. -/
theorem item_eq {message first : Text} {rest : List Text}
    (h : lines (trim message) = first :: rest) :
    item message = ("- ".toList ++ trimRight first) :: rest.map continuation := by
  simp [item, h]

theorem newline_notMem_trimRight {line : Text} (h : '\n' ∉ line) : '\n' ∉ trimRight line :=
  fun hmem => h (mem_of_mem_trimRight hmem)

theorem newline_notMem_continuation {line : Text} (h : '\n' ∉ line) : '\n' ∉ continuation line := by
  unfold continuation
  split
  · simp
  · simp [newline_notMem_trimRight h]

theorem newline_notMem_item {message line : Text} (h : line ∈ item message) : '\n' ∉ line := by
  obtain ⟨first, rest, hlines⟩ := List.exists_cons_of_ne_nil (lines_ne_nil (trim message))
  have hnewline : ∀ line ∈ first :: rest, '\n' ∉ line := by
    intro line hline
    exact newline_notMem_of_mem_lines (hlines ▸ hline)
  rw [item_eq hlines] at h
  rcases List.mem_cons.mp h with rfl | h
  · simp [newline_notMem_trimRight (hnewline first List.mem_cons_self)]
  · obtain ⟨line, hline, rfl⟩ := List.mem_map.mp h
    exact newline_notMem_continuation (hnewline line (List.mem_cons_of_mem _ hline))

/-- The last line of an item is not empty: it is the dash or the end of a trimmed message. -/
theorem getLast_item_ne_nil (message : Text) :
    ∃ front last, item message = front ++ [last] ∧ last ≠ [] := by
  obtain ⟨first, rest, hlines⟩ := List.exists_cons_of_ne_nil (lines_ne_nil (trim message))
  rw [item_eq hlines]
  rcases List.eq_nil_or_concat' rest with rfl | ⟨front, last, rfl⟩
  · exact ⟨[], _, rfl, by simp⟩
  · have hlast : allBlank last = false := allBlank_getLast_lines_trim hlines last (by simp)
    exact ⟨("- ".toList ++ trimRight first) :: front.map continuation, continuation last, by simp,
      by simp [continuation, hlast]⟩

/-! ## Sections -/

/-- The sections are those of the categories that have a commit. -/
theorem sections_eq (commits : List Commit) :
    sections commits =
      (Category.all.filter fun category => commits.any (·.category = category)).map fun category =>
        (category, commits.filter (·.category = category)) := by
  rw [sections, List.filter_map]
  congr 2
  funext category
  rw [Bool.eq_iff_iff]
  simp [List.filter_eq_nil_iff]

theorem mem_sections {commits : List Commit} {category : Category} {members : List Commit} :
    (category, members) ∈ sections commits ↔
      members = commits.filter (·.category = category) ∧ members ≠ [] := by
  simp only [sections, List.mem_filter, List.mem_map, Prod.mk.injEq, decide_eq_true_eq]
  constructor
  · rintro ⟨⟨_, _, rfl, rfl⟩, hne⟩
    exact ⟨rfl, hne⟩
  · rintro ⟨rfl, hne⟩
    exact ⟨⟨category, category.mem_all, rfl, rfl⟩, hne⟩

theorem sections_ne_nil {commits : List Commit} (h : commits ≠ []) : sections commits ≠ [] := by
  obtain ⟨commit, rest, rfl⟩ := List.exists_cons_of_ne_nil h
  have hmem : (commit.category, (commit :: rest).filter (·.category = commit.category)) ∈
      sections (commit :: rest) := mem_sections.mpr ⟨rfl, by simp⟩
  exact List.ne_nil_of_mem hmem

theorem newline_notMem_sectionHeading (emoji : Bool) (category : Category) :
    '\n' ∉ sectionHeading emoji category := by
  cases emoji <;> cases category <;> decide

theorem newline_notMem_sectionLines {emoji : Bool} {group : Category × List Commit} {line : Text}
    (h : line ∈ sectionLines emoji group) : '\n' ∉ line := by
  simp only [sectionLines, List.cons_append, List.mem_cons, List.mem_append, List.mem_flatMap,
    List.not_mem_nil, or_false] at h
  rcases h with rfl | rfl | ⟨commit, _, h⟩ | rfl
  · simp [newline_notMem_sectionHeading]
  · simp
  · exact newline_notMem_item h
  · simp

/-- The lines of a section are its last line with text and, before the end, an empty line. -/
theorem sectionLines_eq_concat (emoji : Bool) {group : Category × List Commit} (h : group.2 ≠ []) :
    ∃ front last, sectionLines emoji group = front ++ [last] ++ [[]] ∧ last ≠ [] := by
  obtain ⟨before, commit, hmembers⟩ := (List.eq_nil_or_concat' group.2).resolve_left h
  obtain ⟨front, last, hitem, hlast⟩ := getLast_item_ne_nil commit.message
  refine ⟨("## ".toList ++ sectionHeading emoji group.1) :: [] ::
    before.flatMap (fun commit => item commit.message) ++ front, last, ?_, hlast⟩
  simp [sectionLines, hmembers, hitem]

/-! ## The title line -/

theorem mem_replaceFrom {old new text : Text} {covered : Nat} {c : Char}
    (h : c ∈ replaceFrom old new covered text) : c ∈ new ∨ c ∈ text := by
  fun_induction replaceFrom old new covered text with
  | case1 => exact .inr h
  | case2 covered d rest ih => exact (ih h).imp_right (List.mem_cons_of_mem d)
  | case3 d rest hfound ih =>
    rcases List.mem_append.mp h with h | h
    · exact .inl h
    · exact (ih h).imp_right (List.mem_cons_of_mem d)
  | case4 d rest hfound ih =>
    rcases List.mem_cons.mp h with rfl | h
    · exact .inr List.mem_cons_self
    · exact (ih h).imp_right (List.mem_cons_of_mem d)

/-- A newline in the title line comes from the title or the version. -/
theorem newline_notMem_titleLine {title version : Text} (htitle : '\n' ∉ title)
    (hversion : '\n' ∉ version) : '\n' ∉ titleLine title version := by
  intro h
  have hreplaced : '\n' ∈ replace placeholder version title := by simpa [titleLine] using h
  rcases mem_replaceFrom hreplaced with h | h
  · exact hversion h
  · exact htitle h

/-! ## The whole document -/

/-- The lines under the title line; the last one is empty, for the notes end in a newline. -/
def bodyLines (emoji : Bool) (commits : List Commit) : List Text :=
  if commits = [] then [[], noChanges, []]
  else [] :: (sections commits).flatMap (sectionLines emoji)

theorem bodyLines_ne_nil (emoji : Bool) (commits : List Commit) : bodyLines emoji commits ≠ [] := by
  unfold bodyLines
  split
  · exact List.cons_ne_nil _ _
  · exact List.cons_ne_nil _ _

theorem newline_notMem_bodyLines {emoji : Bool} {commits : List Commit} {line : Text}
    (h : line ∈ bodyLines emoji commits) : '\n' ∉ line := by
  unfold bodyLines at h
  split at h
  · have hnotice : '\n' ∉ noChanges := by decide
    simp only [List.mem_cons, List.not_mem_nil, or_false] at h
    rcases h with rfl | rfl | rfl
    · simp
    · exact hnotice
    · simp
  · rcases List.mem_cons.mp h with rfl | h
    · simp
    · obtain ⟨group, _, h⟩ := List.mem_flatMap.mp h
      exact newline_notMem_sectionLines h

/-- Release notes are the title line and the lines of the body joined. -/
theorem render_eq_joinLines (version title : Text) (commits : List Commit) (emoji : Bool) :
    render version commits title emoji =
      joinLines (titleLine title version :: bodyLines emoji commits) := by
  unfold render bodyLines
  by_cases hcommits : commits = []
  · rw [if_pos hcommits, if_pos hcommits, ← joinLines_concat_nil (by simp)]
    simp
  · rw [if_neg hcommits, if_neg hcommits]
    obtain ⟨before, group, hsections⟩ :=
      (List.eq_nil_or_concat' (sections commits)).resolve_left (sections_ne_nil hcommits)
    have hgroup : group ∈ sections commits := by simp [hsections]
    obtain ⟨front, last, hlines, hlast⟩ :=
      sectionLines_eq_concat emoji (mem_sections.mp hgroup).2
    have hnewline : '\n' ∉ last :=
      newline_notMem_sectionLines (show last ∈ sectionLines emoji group by simp [hlines])
    -- The document up to the last line with text, and the empty line after it.
    have hdocument :
        titleLine title version :: [] :: (sections commits).flatMap (sectionLines emoji) =
          (titleLine title version :: [] :: before.flatMap (sectionLines emoji) ++ front) ++
            [last] ++ [[]] := by
      simp [hsections, hlines]
    simp only [List.cons_append, List.nil_append]
    rw [hdocument, dropLastNewlines_joinLines hlast hnewline, ← joinLines_concat_nil (by simp)]

/-- The body stands under the title line, whatever the title line is. -/
theorem render_eq_append (version title : Text) (commits : List Commit) (emoji : Bool) :
    render version commits title emoji =
      titleLine title version ++ '\n' :: joinLines (bodyLines emoji commits) := by
  rw [render_eq_joinLines, joinLines_cons _ (bodyLines_ne_nil emoji commits)]

theorem flatMap_lines_bodyLines (emoji : Bool) (commits : List Commit) :
    (bodyLines emoji commits).flatMap lines = bodyLines emoji commits := by
  have hne := bodyLines_ne_nil emoji commits
  rw [← lines_joinLines_eq_flatMap hne, lines_joinLines hne fun _ => newline_notMem_bodyLines]

/-- No text of a commit adds a line to the notes or takes one away. -/
theorem lines_render_eq_append (version title : Text) (commits : List Commit) (emoji : Bool) :
    lines (render version commits title emoji) =
      lines (titleLine title version) ++ bodyLines emoji commits := by
  rw [render_eq_joinLines, lines_joinLines_eq_flatMap (by simp), List.flatMap_cons,
    flatMap_lines_bodyLines]

theorem lines_render {version title : Text} (h : '\n' ∉ titleLine title version)
    (commits : List Commit) (emoji : Bool) :
    lines (render version commits title emoji) =
      titleLine title version :: bodyLines emoji commits := by
  rw [lines_render_eq_append, lines_eq_singleton h, List.singleton_append]

end NextRelease.Notes
