import NextRelease.Proofs.Text.Tidy
import NextRelease.Text.Caseless

/-!
# Words in any case

Folding the case of a text changes letters only, so it neither makes nor removes a blank. A word
that is sought in any case is therefore found in a tidied text exactly if it is found in the text.
-/

namespace NextRelease.Text

theorem occursIn_iff {word text : Text} : occursIn word text = true ↔ word <:+: text := by
  induction text with
  | nil => rw [occursIn, List.isEmpty_iff, List.infix_nil]
  | cons c rest ih =>
    rw [occursIn, Bool.or_eq_true, List.isPrefixOf_iff_prefix, ih, List.infix_cons_iff]

/-- Blanks have no case. -/
theorem foldCase_of_isBlank {c : Char} (h : isBlank c = true) : foldCase c = c := by
  have hcapital : ¬('A' ≤ c ∧ c ≤ 'Z') := by
    rintro ⟨hlow, hhigh⟩
    rw [Char.le_def, UInt32.le_iff_toNat_le] at hlow hhigh
    have hcode : 65 ≤ c.toNat ∧ c.toNat ≤ 90 := ⟨hlow, hhigh⟩
    simp only [isBlank, Bool.or_eq_true, Bool.and_eq_true, decide_eq_true_eq, beq_iff_eq] at h
    omega
  have hne : ∀ {d : Char}, isBlank d = false → c ≠ d := by
    rintro d hd rfl
    simp [hd] at h
  have hi : ¬(c = '\u0130' ∨ c = '\u0131') := not_or.mpr ⟨hne (by decide), hne (by decide)⟩
  rw [foldCase, if_neg hcapital, if_neg hi, if_neg (hne (by decide)), if_neg (hne (by decide))]

theorem isBlank_of_foldCase {c : Char} (h : isBlank (foldCase c) = false) : isBlank c = false := by
  by_contra hblank
  rw [Bool.not_eq_false] at hblank
  rw [foldCase_of_isBlank hblank, hblank] at h
  cases h

/-- A word that is solid in one case is solid in every case. -/
theorem IsSolid.of_map_foldCase {word : Text} (h : IsSolid (word.map foldCase)) : IsSolid word where
  newline_notMem hnewline := h.newline_notMem (List.mem_map.mpr ⟨'\n', hnewline, rfl⟩)
  head_unblank c hc := by
    have hfolded : foldCase c ∈ (word.map foldCase).head? := by
      rw [List.head?_map, Option.mem_def.mp hc]
      rfl
    exact isBlank_of_foldCase (h.head_unblank _ hfolded)
  last_unblank c hc := by
    have hfolded : foldCase c ∈ (word.map foldCase).getLast? := by
      rw [List.getLast?_map, Option.mem_def.mp hc]
      rfl
    exact isBlank_of_foldCase (h.last_unblank _ hfolded)

/-- Layout does not matter to the search for a solid word. -/
theorem occursCaseless_tidy {word : Text} (h : IsSolid (word.map foldCase)) (text : Text) :
    occursCaseless word (tidy text) = occursCaseless word text := by
  rw [Bool.eq_iff_iff, occursCaseless, occursCaseless, occursIn_iff, occursIn_iff,
    List.infix_map_iff, List.infix_map_iff]
  refine exists_congr fun found => and_congr_left fun hfound => ?_
  exact (IsSolid.of_map_foldCase (hfound ▸ h)).infix_tidy_iff text

end NextRelease.Text
