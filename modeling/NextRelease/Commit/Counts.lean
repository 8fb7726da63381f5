import NextRelease.Commit.Classify

/-!
# Counts of commits

How many commits of each category a release holds. Only presence decides the increment: one
breaking commit outweighs any number of features, and one feature any number of fixes.
-/

namespace NextRelease

open Text

structure Counts where
  breaking : Nat := 0
  feature : Nat := 0
  fix : Nat := 0
  docs : Nat := 0
  chore : Nat := 0
  other : Nat := 0
  deriving DecidableEq, Repr

namespace Counts

def get (counts : Counts) : Category → Nat
  | .breaking => counts.breaking
  | .feature => counts.feature
  | .fix => counts.fix
  | .docs => counts.docs
  | .chore => counts.chore
  | .other => counts.other

def ofFunction (count : Category → Nat) : Counts :=
  ⟨count .breaking, count .feature, count .fix, count .docs, count .chore, count .other⟩

def ofCommits (commits : List Commit) : Counts :=
  ofFunction fun category => commits.countP (·.category = category)

/-- Counts from integers, which must not be negative. -/
def ofIntegers (count : Category → Int) : Except Failure Counts :=
  if Category.all.any (count · < 0) then .error .negativeCount
  else .ok (ofFunction fun category => (count category).toNat)

def total (counts : Counts) : Nat :=
  counts.breaking + counts.feature + counts.fix + counts.docs + counts.chore + counts.other

/-- The categories with their counts, in section order. -/
def byCategory (counts : Counts) : List (Category × Nat) :=
  Category.all.map fun category => (category, counts.get category)

/-- The strongest increment among the categories that are present, and at least a patch. -/
def increment (counts : Counts) : Increment :=
  counts.byCategory.foldl
    (fun strongest (category, count) =>
      if 0 < count then strongest.max category.increment else strongest)
    .patch

/-- Why the increment was chosen, in one sentence. -/
def reason (counts : Counts) : Except Failure Text :=
  match counts.increment with
  | .major => do
    return "Breaking change detected (".toList ++ (← writeNumber counts.breaking) ++
      " breaking change(s))".toList
  | .minor => do
    return "Feature(s) detected (".toList ++ (← writeNumber counts.feature) ++
      " feature(s))".toList
  | _ => .ok "Patch increment (only fixes/docs/chore commits)".toList

@[simp]
theorem get_ofFunction (count : Category → Nat) (category : Category) :
    (ofFunction count).get category = count category := by
  cases category <;> rfl

end Counts

end NextRelease
