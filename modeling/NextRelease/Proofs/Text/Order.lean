import NextRelease.Proofs.Sorting
import NextRelease.Text.Basic

/-!
# The order of texts

Texts in code point order are in lexicographic order, which is a linear one. So texts can be listed
in this order in one way only.
-/

namespace NextRelease.Text

variable {a b c : Text}

/-- The first character decides, and the rest does if it is the same. -/
theorem precedes_cons_iff {x y : Char} :
    precedes (x :: a) (y :: b) = true ↔ x.toNat < y.toNat ∨ x = y ∧ precedes a b = true := by
  rw [precedes]
  split
  · next h => simp [h]
  · next h => simp [h]

theorem precedes_total (a b : Text) : precedes a b = true ∨ precedes b a = true := by
  induction a generalizing b with
  | nil => exact .inl rfl
  | cons x xs ih =>
    cases b with
    | nil => exact .inr rfl
    | cons y ys =>
      rw [precedes_cons_iff, precedes_cons_iff]
      rcases Nat.lt_trichotomy x.toNat y.toNat with h | h | h
      · exact .inl (.inl h)
      · have hchar : x = y := Char.toNat_inj.mp h
        exact (ih ys).imp (fun hrest => .inr ⟨hchar, hrest⟩) fun hrest => .inr ⟨hchar.symm, hrest⟩
      · exact .inr (.inl h)

theorem precedes_trans (hab : precedes a b = true) (hbc : precedes b c = true) :
    precedes a c = true := by
  induction a generalizing b c with
  | nil => rfl
  | cons x xs ih =>
    cases b with
    | nil => cases hab
    | cons y ys =>
      cases c with
      | nil => cases hbc
      | cons z zs =>
        rw [precedes_cons_iff] at hab hbc ⊢
        rcases hab with hxy | ⟨rfl, hab⟩
        · rcases hbc with hyz | ⟨rfl, _⟩
          · exact .inl (Nat.lt_trans hxy hyz)
          · exact .inl hxy
        · exact hbc.imp_right fun ⟨hyz, hbc⟩ => ⟨hyz, ih hab hbc⟩

theorem precedes_antisymm (hab : precedes a b = true) (hba : precedes b a = true) : a = b := by
  induction a generalizing b with
  | nil =>
    cases b with
    | nil => rfl
    | cons y ys => cases hba
  | cons x xs ih =>
    cases b with
    | nil => cases hab
    | cons y ys =>
      rw [precedes_cons_iff] at hab hba
      rcases hab with hxy | ⟨rfl, hab⟩
      · rcases hba with hyx | ⟨rfl, _⟩
        · exact absurd hxy (Nat.lt_asymm hyx)
        · exact absurd hxy (Nat.lt_irrefl _)
      · rw [ih hab (hba.resolve_left (Nat.lt_irrefl _)).2]

theorem sortBy_precedes_eq_of_perm {first second : List Text} (h : first.Perm second) :
    sortBy precedes first = sortBy precedes second :=
  sortBy_eq_of_perm precedes_total (fun _ _ _ => precedes_trans) (fun _ _ => precedes_antisymm) h

/-- A list of texts is sorted in one way only. -/
theorem eq_sortBy_precedes_iff {sorted items : List Text} :
    sorted = sortBy precedes items ↔ sorted.Perm items ∧ sorted.Pairwise (precedes · ·) := by
  have hsorted := pairwise_sortBy precedes_total (fun _ _ _ => precedes_trans) items
  constructor
  · rintro rfl
    exact ⟨sortBy_perm precedes items, hsorted⟩
  · rintro ⟨hperm, hpairwise⟩
    exact (hperm.trans (sortBy_perm precedes items).symm).eq_of_pairwise
      (fun _ _ _ _ => precedes_antisymm) hpairwise hsorted

end NextRelease.Text
