import NextRelease.Commit.Counts
import NextRelease.Sorting

/-!
# Versions

A version has three components, compared from the left. An increment raises one component and
resets those to its right, so the result is always greater.
-/

namespace NextRelease

open Text

structure Version where
  major : Nat
  minor : Nat
  patch : Nat
  deriving DecidableEq, Repr

namespace Version

def zero : Version := ⟨0, 0, 0⟩

/-- A version from integers, which must not be negative. -/
def ofIntegers (major minor patch : Int) : Except Failure Version :=
  if 0 ≤ major ∧ 0 ≤ minor ∧ 0 ≤ patch then .ok ⟨major.toNat, minor.toNat, patch.toNat⟩
  else if [major, minor, patch].all fun n => (signedNumeral? n).isSome then
    .error (.negativeComponent major minor patch)
  else .error .numberTooLong

protected def lt (v w : Version) : Prop :=
  v.major < w.major ∨ v.major = w.major ∧
    (v.minor < w.minor ∨ v.minor = w.minor ∧ v.patch < w.patch)

instance : LT Version := ⟨Version.lt⟩

instance : LE Version := ⟨fun v w => v < w ∨ v = w⟩

instance (v w : Version) : Decidable (v < w) := inferInstanceAs (Decidable (_ ∨ _))

instance (v w : Version) : Decidable (v ≤ w) := inferInstanceAs (Decidable (_ ∨ _))

def text (v : Version) : Text := decimal v.major ++ '.' :: decimal v.minor ++ '.' :: decimal v.patch

/-- The written version, or a failure if a component has too many digits. -/
def write (v : Version) : Except Failure Text := do
  let major ← writeNumber v.major
  let minor ← writeNumber v.minor
  let patch ← writeNumber v.patch
  return major ++ '.' :: minor ++ '.' :: patch

/-- The tag of a version: its written form after the prefix of tags. -/
def tag (tagPrefix : Text) (v : Version) : Except Failure Text := do
  return tagPrefix ++ (← v.write)

/-- The version after an increment; the weakest increment raises the patch. -/
def next (v : Version) : Increment → Version
  | .major => ⟨v.major + 1, 0, 0⟩
  | .minor => ⟨v.major, v.minor + 1, 0⟩
  | _ => ⟨v.major, v.minor, v.patch + 1⟩

/-- The version that follows a release with the given commits. -/
def bump (v : Version) (counts : Counts) : Version := v.next counts.increment

def sort (versions : List Version) : List Version := sortBy (fun v w => v ≤ w) versions

end Version

end NextRelease
