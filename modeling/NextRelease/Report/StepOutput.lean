import NextRelease.Resolution.Basic

/-!
# Step outputs

A build step hands values on as `name=value` lines. A value of several lines stands between
`name<<DELIMITER` and a line that is the delimiter, so no line of the value may be the delimiter:
the delimiter gets an underscore at both ends until none is.
-/

namespace NextRelease

open Text

namespace StepOutput

/-- The plain delimiter between underscores at both ends. -/
def delimiterOf (underscores : Nat) : Text :=
  List.replicate underscores '_' ++ "EOF".toList ++ List.replicate underscores '_'

/--
The first delimiter, from the given number of underscores on, that is none of the lines. At most
`fuel` delimiters are refused.
-/
def delimiterFrom (taken : List Text) : Nat → Nat → Text
  | 0, underscores => delimiterOf underscores
  | fuel + 1, underscores =>
    if delimiterOf underscores ∈ taken then delimiterFrom taken fuel (underscores + 1)
    else delimiterOf underscores

/-- The delimiter with the fewest underscores that is no line of the body. -/
def delimiter (body : Text) : Text :=
  let taken := lines body
  delimiterFrom taken taken.length 0

/-- The outputs of a resolution: version, number of commits, and notes. -/
def render (resolution : Resolution) : Except Failure Text := do
  let notes := dropLastNewlines resolution.releaseNotes
  let delimiter := delimiter notes
  let count ← writeNumber resolution.commitCount
  return joinLines [
    "version=".toList ++ resolution.finalVersion,
    "commit_count=".toList ++ count,
    "notes<<".toList ++ delimiter,
    notes,
    delimiter] ++ ['\n']

end StepOutput

end NextRelease
