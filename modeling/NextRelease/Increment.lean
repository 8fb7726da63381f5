import NextRelease.Failure

/-!
# Increments

An increment says which component of a version goes up. A release with several kinds of change
takes the strongest one.
-/

namespace NextRelease

/-- Which component of a version goes up. -/
inductive Increment
  | major | minor | patch | none
  deriving DecidableEq, Repr

namespace Increment

/-- The increments, the strongest first. -/
def all : List Increment := [major, minor, patch, none]

def name : Increment → Text
  | major => "major".toList
  | minor => "minor".toList
  | patch => "patch".toList
  | none => "none".toList

def ofName : Text → Except Failure Increment := memberOfName .increment all name

def strength : Increment → Nat
  | major => 3
  | minor => 2
  | patch => 1
  | none => 0

def max (a b : Increment) : Increment := if b.strength ≤ a.strength then a else b

/-- The strongest increment of each non-empty initial part of a list that starts with `first`. -/
def running (first : Increment) : List Increment → List Increment
  | [] => [first]
  | next :: rest => first :: running (first.max next) rest

end Increment

end NextRelease
