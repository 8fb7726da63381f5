import NextRelease.Sorting

/-!
# Sorted lists

Where any two items may stand in one order at least, sorting puts every item before those that it
may precede. If no two items may stand in both orders, a list can be sorted in one way only, so the
order in which the items are given is lost.
-/

namespace NextRelease

variable {α : Type} {precedes : α → α → Bool}

section

variable (total : ∀ a b, precedes a b = true ∨ precedes b a = true)
  (trans : ∀ a b c, precedes a b = true → precedes b c = true → precedes a c = true)
include total trans

theorem pairwise_insertBy (item : α) {items : List α} (h : items.Pairwise (precedes · ·)) :
    (insertBy precedes item items).Pairwise (precedes · ·) := by
  induction items with
  | nil => exact List.pairwise_singleton _ item
  | cons next rest ih =>
    obtain ⟨hnext, hrest⟩ := List.pairwise_cons.mp h
    unfold insertBy
    split
    · next hbefore =>
      refine List.pairwise_cons.mpr ⟨fun other hother => ?_, h⟩
      rcases List.mem_cons.mp hother with rfl | hmem
      · exact hbefore
      · exact trans _ _ _ hbefore (hnext other hmem)
    · next hafter =>
      refine List.pairwise_cons.mpr ⟨fun other hother => ?_, ih hrest⟩
      rcases List.mem_cons.mp ((insertBy_perm precedes item rest).mem_iff.mp hother) with rfl | hmem
      · exact (total _ _).resolve_left hafter
      · exact hnext other hmem

theorem pairwise_sortBy (items : List α) : (sortBy precedes items).Pairwise (precedes · ·) := by
  induction items with
  | nil => exact List.Pairwise.nil
  | cons item rest ih => exact pairwise_insertBy total trans item ih

/-- The order in which the items are given does not matter. -/
theorem sortBy_eq_of_perm (antisymm : ∀ a b, precedes a b = true → precedes b a = true → a = b)
    {first second : List α} (h : first.Perm second) :
    sortBy precedes first = sortBy precedes second := by
  have hperm := (sortBy_perm precedes first).trans (h.trans (sortBy_perm precedes second).symm)
  exact hperm.eq_of_pairwise (fun a b _ _ => antisymm a b) (pairwise_sortBy total trans first)
    (pairwise_sortBy total trans second)

end

end NextRelease
