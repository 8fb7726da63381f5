import NextRelease.Proofs.Version.Order

/-!
# The version that follows a release

The increment of a release is folded over the categories that are present. It is the least one that
none of them exceeds, so the order of the categories does not matter, and more commits never make it
weaker. The versions after a patch, a minor and a major increment ascend in this order, whatever
components they reset, so more commits never lead to a lower version either.
-/

namespace NextRelease

namespace Counts

/-- The stronger one of an increment and that of a category, as far as the category is present. -/
def strengthen (counts : Counts) (strongest : Increment) (category : Category) : Increment :=
  if 0 < counts.get category then strongest.max category.increment else strongest

/-- The strongest increment among the present categories, which are gone through in this order. -/
def incrementIn (counts : Counts) (order : List Category) : Increment :=
  order.foldl counts.strengthen .patch

theorem incrementIn_all (counts : Counts) : counts.incrementIn Category.all = counts.increment :=
  rfl

variable {counts more : Counts}

/-- Going on from any increment leads to the least one that no present category exceeds. -/
theorem foldl_strengthen_le_iff {order : List Category} {start bound : Increment} :
    order.foldl counts.strengthen start ≤ bound ↔
      start ≤ bound ∧
        ∀ category ∈ order, 0 < counts.get category → category.increment ≤ bound := by
  induction order generalizing start with
  | nil => simp
  | cons category rest ih =>
    rw [List.foldl_cons, ih, List.forall_mem_cons, strengthen]
    by_cases hpresent : 0 < counts.get category
    · rw [if_pos hpresent, Increment.max_eq_max, max_le_iff, and_assoc]
      simp only [hpresent, true_imp_iff]
    · simp only [hpresent, if_false, false_imp_iff, true_and]

theorem incrementIn_le_iff {order : List Category} {bound : Increment} :
    counts.incrementIn order ≤ bound ↔
      .patch ≤ bound ∧
        ∀ category ∈ order, 0 < counts.get category → category.increment ≤ bound :=
  foldl_strengthen_le_iff

/-- Only which categories are gone through matters, not in which order. -/
theorem incrementIn_eq_increment {order : List Category} (h : order.Perm Category.all) :
    counts.incrementIn order = counts.increment := by
  rw [← incrementIn_all]
  refine eq_of_forall_ge_iff fun bound => ?_
  rw [incrementIn_le_iff, incrementIn_le_iff]
  simp only [h.mem_iff]

/-- Where more categories are present the increment is no weaker. -/
theorem increment_le_increment
    (h : ∀ category, 0 < counts.get category → 0 < more.get category) :
    counts.increment ≤ more.increment := by
  rw [← incrementIn_all counts, incrementIn_le_iff]
  obtain ⟨hpatch, hpresent⟩ := incrementIn_le_iff.mp (le_of_eq (incrementIn_all more))
  exact ⟨hpatch, fun category hcategory hpos => hpresent category hcategory (h category hpos)⟩

theorem increment_eq_major_iff : counts.increment = .major ↔ 0 < counts.breaking := by
  rw [increment_eq, get, get]
  split_ifs with hbreaking hfeature <;> simp [hbreaking]

theorem increment_eq_minor_iff :
    counts.increment = .minor ↔ counts.breaking = 0 ∧ 0 < counts.feature := by
  rw [increment_eq, get, get]
  split_ifs with hbreaking hfeature
  · simp [Nat.pos_iff_ne_zero.mp hbreaking]
  · simp [Nat.eq_zero_of_not_pos hbreaking, hfeature]
  · simp [hfeature]

theorem increment_eq_patch_iff :
    counts.increment = .patch ↔ counts.breaking = 0 ∧ counts.feature = 0 := by
  rw [increment_eq, get, get]
  split_ifs with hbreaking hfeature
  · simp [Nat.pos_iff_ne_zero.mp hbreaking]
  · simp [Nat.pos_iff_ne_zero.mp hfeature]
  · simp [Nat.eq_zero_of_not_pos hbreaking, Nat.eq_zero_of_not_pos hfeature]

end Counts

namespace Version

/-- Components that are not negative make a version. -/
theorem ofIntegers_natCast (major minor patch : Nat) :
    ofIntegers major minor patch = .ok ⟨major, minor, patch⟩ := by
  simp [ofIntegers]

theorem bump_eq_after (v : Version) (counts : Counts) : v.bump counts = v.after counts.increment :=
  (after_of_ne_none counts.increment_ne_none v).symm

/--
The increment of a release is decided by its counts alone: major with a breaking commit, else minor
with a feature, else patch, in whatever order the categories are gone through. The version that
follows has the raised component with zeros to its right, which the check on components accepts, and
is greater than the version before. The versions after the three increments ascend strictly, and
raising a count never lowers the version that follows.
-/
theorem bump_decision (v : Version) (counts : Counts) :
    (∀ order : List Category, order.Perm Category.all →
      counts.incrementIn order = counts.increment) ∧
    (counts.increment = .major ↔ 0 < counts.breaking) ∧
    (counts.increment = .minor ↔ counts.breaking = 0 ∧ 0 < counts.feature) ∧
    (counts.increment = .patch ↔ counts.breaking = 0 ∧ counts.feature = 0) ∧
    (counts.increment = .major → ofIntegers (v.major + 1) 0 0 = .ok (v.bump counts)) ∧
    (counts.increment = .minor → ofIntegers v.major (v.minor + 1) 0 = .ok (v.bump counts)) ∧
    (counts.increment = .patch → ofIntegers v.major v.minor (v.patch + 1) = .ok (v.bump counts)) ∧
    v < v.bump counts ∧
    v.next .patch < v.next .minor ∧ v.next .minor < v.next .major ∧
    ∀ more : Counts, (∀ category, counts.get category ≤ more.get category) →
      v.bump counts ≤ v.bump more := by
  refine ⟨fun order horder => Counts.incrementIn_eq_increment horder,
    Counts.increment_eq_major_iff, Counts.increment_eq_minor_iff, Counts.increment_eq_patch_iff,
    ?_, ?_, ?_, lt_bump v counts, ?_, ?_, ?_⟩
  · intro hmajor
    rw [bump, hmajor]
    exact ofIntegers_natCast (v.major + 1) 0 0
  · intro hminor
    rw [bump, hminor]
    exact ofIntegers_natCast v.major (v.minor + 1) 0
  · intro hpatch
    rw [bump, hpatch]
    exact ofIntegers_natCast v.major v.minor (v.patch + 1)
  · exact strictMono_after v (show Increment.patch < .minor by decide)
  · exact strictMono_after v (show Increment.minor < .major by decide)
  · intro more hmore
    rw [bump_eq_after, bump_eq_after]
    apply (strictMono_after v).monotone
    exact Counts.increment_le_increment fun category hpos =>
      Nat.lt_of_lt_of_le hpos (hmore category)

/-- A feature outweighs any number of fixes, and resets the patch. -/
example : (⟨1, 4, 2⟩ : Version).bump { feature := 1, fix := 9 } = ⟨1, 5, 0⟩ := rfl

end Version

end NextRelease
