/-!
# Sorting

A list is sorted by inserting its items one by one, from the last to the first. An item is put in
front of the first one that it may precede, so items that may precede each other keep their order.
-/

namespace NextRelease

variable {α : Type}

/-- Puts an item in front of the first one that it may precede. -/
def insertBy (precedes : α → α → Bool) (item : α) : List α → List α
  | [] => [item]
  | next :: rest =>
    if precedes item next then item :: next :: rest else next :: insertBy precedes item rest

/-- The items in ascending order. -/
def sortBy (precedes : α → α → Bool) : List α → List α
  | [] => []
  | item :: rest => insertBy precedes item (sortBy precedes rest)

theorem insertBy_perm (precedes : α → α → Bool) (item : α) (items : List α) :
    (insertBy precedes item items).Perm (item :: items) := by
  induction items with
  | nil => exact .refl _
  | cons next rest ih =>
    unfold insertBy
    split
    · exact .refl _
    · exact (ih.cons next).trans (.swap item next rest)

/-- Sorting neither loses nor adds an item. -/
theorem sortBy_perm (precedes : α → α → Bool) (items : List α) :
    (sortBy precedes items).Perm items := by
  induction items with
  | nil => exact .refl _
  | cons item rest ih => exact (insertBy_perm precedes item _).trans (ih.cons item)

end NextRelease
