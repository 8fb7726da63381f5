import NextRelease.Proofs.Text.Lines
import NextRelease.Text.Blank

/-!
# Trimmed texts

What trimming leaves begins and ends with characters that are not blank, and nothing is left only
of a blank text. A newline is blank, so the last line of a trimmed text of several lines has text.
-/

namespace NextRelease.Text

theorem trimRight_eq_rdropWhile (text : Text) : trimRight text = text.rdropWhile isBlank := rfl

theorem trimRight_eq_nil_iff {text : Text} : trimRight text = [] ↔ allBlank text = true := by
  rw [trimRight_eq_rdropWhile, List.rdropWhile_eq_nil_iff, allBlank, List.all_eq_true]

theorem allBlank_trimLeft (text : Text) : allBlank (trimLeft text) = allBlank text := by
  induction text with
  | nil => rfl
  | cons c rest ih =>
    unfold trimLeft allBlank at *
    cases hc : isBlank c with
    | true => simpa [hc] using ih
    | false => simp [hc]

/-- Nothing is left of a blank text, and something of every other one. -/
theorem trim_eq_nil_iff {text : Text} : trim text = [] ↔ allBlank text = true := by
  rw [trim, trimRight_eq_nil_iff, allBlank_trimLeft]

theorem mem_of_mem_trimRight {text : Text} {c : Char} (h : c ∈ trimRight text) : c ∈ text :=
  (List.rdropWhile_prefix isBlank text).subset h

theorem trim_subset (text : Text) : trim text ⊆ text := fun _ hc =>
  (List.dropWhile_sublist isBlank).subset (mem_of_mem_trimRight hc)

/-- A text that begins and ends with characters that are not blank is trimmed. -/
theorem trim_eq_self {text : Text} (hfirst : ∀ c ∈ text.head?, isBlank c = false)
    (hlast : ∀ c ∈ text.getLast?, isBlank c = false) : trim text = text := by
  have hleft : trimLeft text = text := by
    cases text with
    | nil => rfl
    | cons c rest => simp [trimLeft, hfirst c rfl]
  rw [trim, hleft, trimRight_eq_rdropWhile, List.rdropWhile_eq_self_iff]
  intro hne
  simp [hlast _ (List.getLast?_eq_some_getLast hne)]

theorem isBlank_getLast_trim {text : Text} {c : Char} (h : c ∈ (trim text).getLast?) :
    isBlank c = false := by
  rw [trim, trimRight_eq_rdropWhile] at h
  have hne : (trimLeft text).rdropWhile isBlank ≠ [] := by
    intro hnil
    simp [hnil] at h
  rw [List.getLast?_eq_some_getLast hne] at h
  have hlast := List.rdropWhile_last_not isBlank (trimLeft text) hne
  simpa [Option.mem_some_iff.mp h] using hlast

/-- The lines of a trimmed text do not end in a blank one, unless it is the only one. -/
theorem allBlank_getLast_lines_trim {message first : Text} {rest : List Text}
    (h : lines (trim message) = first :: rest) : ∀ last ∈ rest.getLast?, allBlank last = false := by
  intro last hlast
  obtain ⟨front, rfl⟩ := List.getLast?_eq_some_iff.mp hlast
  have htext : trim message = joinLines ((first :: front) ++ [last]) := by
    rw [List.cons_append, ← h, joinLines_lines]
  rcases List.eq_nil_or_concat' last with rfl | ⟨start, c, rfl⟩
  · -- An empty last line would be a newline at the end.
    have hend : '\n' ∈ (trim message).getLast? := by
      rw [htext, joinLines_concat_nil (by simp)]
      simp
    exact absurd (isBlank_getLast_trim hend) (by decide)
  · have hend : c ∈ (trim message).getLast? := by
      obtain ⟨before, hbefore⟩ := joinLines_concat (first :: front) (start ++ [c])
      rw [htext, hbefore]
      simp
    simp [allBlank, isBlank_getLast_trim hend]

end NextRelease.Text
