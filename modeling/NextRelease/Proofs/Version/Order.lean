import Mathlib.Order.MinMax
import NextRelease.Proofs.Commit.Counts
import NextRelease.Version.Basic

/-!
# The order of versions

Versions are compared component by component from the left, which is a linear order, and every
increment leads to a greater version: the stronger the increment, the greater the version.
-/

namespace NextRelease.Version

theorem lt_iff {v w : Version} : v < w ↔ v.major < w.major ∨ v.major = w.major ∧
    (v.minor < w.minor ∨ v.minor = w.minor ∧ v.patch < w.patch) := Iff.rfl

theorem eq_iff {v w : Version} :
    v = w ↔ v.major = w.major ∧ v.minor = w.minor ∧ v.patch = w.patch := by
  cases v
  cases w
  simp

theorem le_iff {v w : Version} : v ≤ w ↔ v.major < w.major ∨ v.major = w.major ∧
    (v.minor < w.minor ∨ v.minor = w.minor ∧ v.patch ≤ w.patch) := by
  change (v < w ∨ v = w) ↔ _
  rw [lt_iff, eq_iff]
  omega

instance : LinearOrder Version where
  le_refl v := .inr rfl
  le_trans u v w huv hvw := by
    rw [le_iff] at *
    omega
  lt_iff_le_not_ge v w := by
    rw [lt_iff, le_iff, le_iff]
    omega
  le_antisymm v w hvw hwv := by
    rw [le_iff] at hvw hwv
    rw [eq_iff]
    omega
  le_total v w := by
    rw [le_iff, le_iff]
    omega
  toDecidableLE := inferInstance

/-- An increment raises the version, whatever it resets. -/
theorem lt_next (v : Version) (increment : Increment) : v < v.next increment := by
  cases increment <;> simp [lt_iff, next]

/-- A release raises the version, whatever its commits. -/
theorem lt_bump (v : Version) (counts : Counts) : v < v.bump counts :=
  lt_next v counts.increment

/-! ## The version after an increment -/

/-- The version after an increment, which may be none at all. -/
def after (v : Version) : Increment → Version
  | .none => v
  | increment => v.next increment

theorem after_of_ne_none {increment : Increment} (h : increment ≠ .none) (v : Version) :
    v.after increment = v.next increment := by
  cases increment with
  | none => exact absurd rfl h
  | major => rfl
  | minor => rfl
  | patch => rfl

/-- A stronger increment leads to a greater version. -/
theorem strictMono_after (v : Version) : StrictMono v.after := by
  intro weaker stronger h
  rw [Increment.lt_iff] at h
  rw [lt_iff]
  cases weaker <;> cases stronger <;> simp [Increment.strength, after, next] at h ⊢

/-- The version after the stronger one of two increments is the greater one of the two versions. -/
theorem after_max (v : Version) (first second : Increment) :
    v.after (max first second) = max (v.after first) (v.after second) :=
  Monotone.map_max (strictMono_after v).monotone

theorem le_after (v : Version) (increment : Increment) : v ≤ v.after increment :=
  (strictMono_after v).monotone (Increment.none_le increment)

theorem after_le_after {v w : Version} (h : v ≤ w) (increment : Increment) :
    v.after increment ≤ w.after increment := by
  rw [le_iff] at *
  cases increment with
  | major =>
    have hmajor : v.major < w.major ∨ v.major = w.major := by omega
    simpa [after, next] using hmajor
  | minor =>
    simp only [after, next]
    omega
  | patch =>
    simp only [after, next]
    omega
  | none => exact h

/-- An increment raises the major component only if it is the strongest one. -/
theorem major_after (v : Version) (increment : Increment) :
    (v.after increment).major = v.major + if increment = .major then 1 else 0 := by
  cases increment with
  | major => rfl
  | minor => rfl
  | patch => rfl
  | none => rfl

/-! ## Increments one after the other -/

/-- The version after increments that are taken one after the other. -/
def afterAll (v : Version) (increments : List Increment) : Version := increments.foldl after v

/-- To take the strongest increment alone never leads further than to take each of them. -/
theorem after_foldr_max_le_afterAll (v : Version) (increments : List Increment) :
    v.after (increments.foldr max .none) ≤ v.afterAll increments := by
  induction increments generalizing v with
  | nil => exact le_refl v
  | cons first rest ih =>
    refine le_trans ?_ (ih (v.after first))
    rw [List.foldr_cons, after_max]
    exact max_le (le_after _ _) (after_le_after (le_after v first) _)

theorem major_afterAll (v : Version) (increments : List Increment) :
    (v.afterAll increments).major = v.major + increments.count .major := by
  induction increments generalizing v with
  | nil => rfl
  | cons first rest ih =>
    have hrest : ((v.after first).afterAll rest).major =
        (v.after first).major + rest.count .major := ih (v.after first)
    change ((v.after first).afterAll rest).major = _
    rw [hrest, major_after, List.count_cons]
    simp only [beq_iff_eq]
    omega

end NextRelease.Version
