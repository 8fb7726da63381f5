import NextRelease.Proofs.Commit.Tidy
import NextRelease.Proofs.Notes.ReadBack

/-!
# Release notes keep what layout leaves

An item is laid out in the same way as a tidied text, so the notes of commits do not change when
their messages are tidied first. What is read back from under the title, however many lines it has,
are the tidied messages, and each of them still belongs to the section it stands in.
-/

namespace NextRelease.Notes

open Text

/-! ## Notes of tidied commits -/

theorem continuation_trimRight (line : Text) : continuation (trimRight line) = continuation line := by
  have hblank : allBlank (trimRight line) = allBlank line := by
    rw [Bool.eq_iff_iff, ← trimRight_eq_nil_iff, trimRight_trimRight, trimRight_eq_nil_iff]
  rw [continuation, continuation, hblank, trimRight_trimRight]

theorem item_tidy (message : Text) : item (tidy message) = item message := by
  obtain ⟨first, rest, hlines⟩ := List.exists_cons_of_ne_nil (lines_ne_nil (trim message))
  have htidy : lines (trim (tidy message)) = trimRight first :: rest.map trimRight := by
    rw [trim_tidy, lines_tidy, hlines, List.map_cons]
  have hrest : (rest.map trimRight).map continuation = rest.map continuation := by
    rw [List.map_map]
    exact List.map_congr_left fun line _ => continuation_trimRight line
  rw [item_eq htidy, item_eq hlines, trimRight_trimRight, hrest]

theorem filter_category_map_tidied (commits : List Commit) (category : Category) :
    (commits.map Commit.tidied).filter (·.category = category) =
      (commits.filter (·.category = category)).map Commit.tidied :=
  List.filter_map

theorem sections_map_tidied (commits : List Commit) :
    sections (commits.map Commit.tidied) =
      (sections commits).map fun group => (group.1, group.2.map Commit.tidied) := by
  simp only [sections_eq, filter_category_map_tidied, List.any_map, List.map_map]
  rfl

theorem sectionLines_map_tidied (emoji : Bool) (group : Category × List Commit) :
    sectionLines emoji (group.1, group.2.map Commit.tidied) = sectionLines emoji group := by
  simp only [sectionLines, List.flatMap_map, Commit.tidied, item_tidy]

/-- Notes do not change when the messages of the commits are tidied. -/
theorem render_map_tidied (version title : Text) (commits : List Commit) (emoji : Bool) :
    render version (commits.map Commit.tidied) title emoji =
      render version commits title emoji := by
  simp only [render, List.map_eq_nil_iff, sections_map_tidied, List.flatMap_map,
    sectionLines_map_tidied]

/-! ## Reading under a title -/

/-- The sections of release notes under a title, which may have several lines. -/
def readUnder (title notes : Text) : List (Category × List Text) :=
  (outline ((lines notes).drop (lines title).length)).sections

theorem readUnder_eq_read {title : Text} (h : '\n' ∉ title) (notes : Text) :
    readUnder title notes = read notes := by
  rw [readUnder, lines_eq_singleton h]
  rfl

theorem readUnder_render (version title : Text) (commits : List Commit) (emoji : Bool) :
    readUnder (titleLine title version) (render version commits title emoji) =
      tidySections commits := by
  rw [readUnder, lines_render_eq_append, List.drop_left, outline_bodyLines]

/-- A message that is read back belongs to the section it stands in. -/
theorem classify_of_mem_tidySections {messages texts : List Text} {category : Category}
    {text : Text} (h : (category, texts) ∈ tidySections (classifyAll messages))
    (htext : text ∈ texts) : classify text = category := by
  obtain ⟨rfl, _⟩ := mem_tidySections.mp h
  obtain ⟨commit, hcommit, rfl⟩ := List.mem_map.mp htext
  obtain ⟨hmem, hcategory⟩ := List.mem_filter.mp hcommit
  obtain ⟨message, _, rfl⟩ := List.mem_map.mp hmem
  rw [classify_tidy_eq]
  exact of_decide_eq_true hcategory

end NextRelease.Notes
