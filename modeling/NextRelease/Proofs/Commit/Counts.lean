import Mathlib.Order.Lattice
import NextRelease.Commit.Counts
import NextRelease.Proofs.Failure

/-!
# Counts decide the increment

The counts of a list of commits add up to its length, and only the presence of a breaking commit
or of a feature decides the increment. Increments are ordered by their strength; the increment of a
list of commits is the strongest that one of them asks for, so lists that are put together take the
stronger one of their increments.
-/

namespace NextRelease

/-! ## The order of increments -/

namespace Increment

theorem strength_injective : Function.Injective strength := by
  intro a b h
  cases a <;> cases b <;> simp [strength] at h ⊢

instance : LinearOrder Increment := LinearOrder.lift' strength strength_injective

theorem le_iff {a b : Increment} : a ≤ b ↔ a.strength ≤ b.strength := Iff.rfl

theorem lt_iff {a b : Increment} : a < b ↔ a.strength < b.strength := Iff.rfl

/-- The stronger one of two increments is the greater one. -/
theorem max_eq_max (a b : Increment) : a.max b = Max.max a b := by
  unfold Increment.max
  split
  · next h => exact (max_eq_left (le_iff.mpr h)).symm
  · next h => exact (max_eq_right (le_iff.mpr (Nat.le_of_not_le h))).symm

theorem none_le (a : Increment) : none ≤ a := Nat.zero_le _

theorem le_major (a : Increment) : a ≤ major := by
  cases a <;> decide

end Increment

namespace Counts

/-! ## The counts of a list -/

theorem get_ofCommits_append (first rest : List Commit) (category : Category) :
    (ofCommits (first ++ rest)).get category =
      (ofCommits first).get category + (ofCommits rest).get category := by
  simp [ofCommits]

theorem get_ofCommits (commits : List Commit) (category : Category) :
    (ofCommits commits).get category = commits.countP (·.category = category) :=
  get_ofFunction _ category

theorem get_ofCommits_pos {commits : List Commit} {category : Category} :
    0 < (ofCommits commits).get category ↔ ∃ commit ∈ commits, commit.category = category := by
  simp [get_ofCommits, List.countP_pos_iff]

/-- Every commit is counted once. -/
theorem total_ofCommits (commits : List Commit) : (ofCommits commits).total = commits.length := by
  induction commits with
  | nil => rfl
  | cons commit rest ih =>
    simp only [ofCommits, ofFunction, total, List.countP_cons, List.length_cons] at ih ⊢
    cases commit.category <;> simp <;> omega

/-- One breaking commit outweighs everything else, and one feature all that is not breaking. -/
theorem increment_eq (counts : Counts) :
    counts.increment =
      if 0 < counts.get .breaking then .major
      else if 0 < counts.get .feature then .minor else .patch := by
  simp only [increment, byCategory, Category.all, List.map_cons, List.map_nil, List.foldl_cons,
    List.foldl_nil, Category.increment, get]
  by_cases hbreaking : 0 < counts.breaking
  · by_cases hfeature : 0 < counts.feature
    · simp [hbreaking, hfeature, Increment.max, Increment.strength]
    · simp [hbreaking, hfeature, Increment.max, Increment.strength]
  · by_cases hfeature : 0 < counts.feature
    · simp [hbreaking, hfeature, Increment.max, Increment.strength]
    · simp [hbreaking, hfeature, Increment.max, Increment.strength]

theorem increment_ne_none (counts : Counts) : counts.increment ≠ .none := by
  rw [increment_eq]
  split
  · simp
  · split
    · simp
    · simp

/-! ## The increment of counts that may all be zero -/

/-- The increment of counts that may all be zero. -/
def incrementIfAny (counts : Counts) : Increment :=
  if 0 < counts.get .breaking then .major
  else if 0 < counts.get .feature then .minor
  else if 0 < counts.total then .patch
  else .none

theorem incrementIfAny_eq_increment {counts : Counts} (h : 0 < counts.total) :
    counts.incrementIfAny = counts.increment := by
  rw [incrementIfAny, increment_eq, if_pos h]

theorem get_le_total (counts : Counts) (category : Category) :
    counts.get category ≤ counts.total := by
  unfold get total
  cases category <;> simp <;> omega

section

variable {counts : Counts}

theorem incrementIfAny_eq_major_iff :
    counts.incrementIfAny = .major ↔ 0 < counts.get .breaking := by
  unfold incrementIfAny
  split_ifs with hbreaking <;> simp [hbreaking]

theorem incrementIfAny_eq_minor_iff :
    counts.incrementIfAny = .minor ↔ 0 < counts.get .feature ∧ ¬0 < counts.get .breaking := by
  unfold incrementIfAny
  split_ifs with hbreaking hfeature <;> simp [*]

theorem incrementIfAny_eq_patch_iff :
    counts.incrementIfAny = .patch ↔
      0 < counts.total ∧ ¬0 < counts.get .breaking ∧ ¬0 < counts.get .feature := by
  unfold incrementIfAny
  split_ifs with hbreaking hfeature htotal <;> simp [*]

theorem incrementIfAny_eq_none_iff : counts.incrementIfAny = .none ↔ counts.total = 0 := by
  have hbreaking := counts.get_le_total .breaking
  have hfeature := counts.get_le_total .feature
  unfold incrementIfAny
  split_ifs <;> simp <;> omega

end

/-! ## The strongest increment -/

theorem incrementIfAny_cons (commit : Commit) (rest : List Commit) :
    (ofCommits (commit :: rest)).incrementIfAny =
      max commit.category.increment (ofCommits rest).incrementIfAny := by
  simp only [incrementIfAny, total_ofCommits, get_ofCommits, List.countP_cons, List.length_cons]
  by_cases hbreaking : 0 < rest.countP (·.category = .breaking)
  · -- A breaking commit further on decides, whatever the first commit is.
    have hmore : ∀ n, 0 < rest.countP (·.category = .breaking) + n :=
      fun n => Nat.add_pos_left hbreaking n
    rw [if_pos (hmore _), if_pos hbreaking, max_eq_right (Increment.le_major _)]
  · by_cases hfeature : 0 < rest.countP (·.category = .feature)
    · cases commit.category <;> simp [hbreaking, hfeature, Category.increment] <;> decide
    · by_cases hany : 0 < rest.length
      · cases commit.category <;> simp [hbreaking, hfeature, hany, Category.increment] <;> decide
      · cases commit.category <;> simp [hbreaking, hfeature, hany, Category.increment] <;> decide

/-- Lists of commits that are put together take the stronger one of their increments. -/
theorem incrementIfAny_append (first rest : List Commit) :
    (ofCommits (first ++ rest)).incrementIfAny =
      max (ofCommits first).incrementIfAny (ofCommits rest).incrementIfAny := by
  induction first with
  | nil => exact (max_eq_right (Increment.none_le _)).symm
  | cons commit first ih =>
    rw [List.cons_append, incrementIfAny_cons, incrementIfAny_cons, ih, max_assoc]

/-! ## Reasons -/

/-- The reason for the increment can be written as long as the number of commits can. -/
theorem exists_reason {counts : Counts} (h : counts.total < 10 ^ Text.numeralLimit) :
    ∃ reason, counts.reason = .ok reason := by
  have hbreaking : counts.breaking < 10 ^ Text.numeralLimit := by
    unfold total at h
    omega
  have hfeature : counts.feature < 10 ^ Text.numeralLimit := by
    unfold total at h
    omega
  unfold reason
  rw [writeNumber_eq_ok hbreaking, writeNumber_eq_ok hfeature]
  cases counts.increment with
  | major => exact ⟨_, rfl⟩
  | minor => exact ⟨_, rfl⟩
  | patch => exact ⟨_, rfl⟩
  | none => exact ⟨_, rfl⟩

end Counts

end NextRelease
