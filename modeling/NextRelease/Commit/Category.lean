import NextRelease.Failure
import NextRelease.Increment

/-!
# Categories of commits

Every commit belongs to one of six categories. Their order is that of the sections of release
notes and of the rules that classify a message.
-/

namespace NextRelease

/-- What a commit changes. -/
inductive Category
  | breaking | feature | fix | docs | chore | other
  deriving DecidableEq, Repr

namespace Category

/-- The categories in section order. -/
def all : List Category := [breaking, feature, fix, docs, chore, other]

def name : Category → Text
  | breaking => "breaking".toList
  | feature => "feature".toList
  | fix => "fix".toList
  | docs => "docs".toList
  | chore => "chore".toList
  | other => "other".toList

def ofName : Text → Except Failure Category := memberOfName .category all name

/-- The increment that a commit of the category asks for on its own. -/
def increment : Category → Increment
  | breaking => .major
  | feature => .minor
  | _ => .patch

theorem mem_all (category : Category) : category ∈ all := by cases category <;> decide

end Category

end NextRelease
