import NextRelease.Version.Basic

/-!
# Version tags

A tag is read after trimming it and taking off the prefix of tags once. What is left must begin
with a version, perhaps after a `v`: three non-empty runs of decimal digits joined by dots. Any
text may follow. A tag that is missing or has another form is no failure: the version falls back
to zero, and an advisory says so.
-/

namespace NextRelease

open Text

/-- A missing tag, or one that is not read as a version under the prefix of tags. -/
structure TagAdvisory where
  tag : Option Text
  tagPrefix : Text
  deriving DecidableEq, Repr

namespace TagAdvisory

def isMissing (advisory : TagAdvisory) : Bool := advisory.tag.all allBlank

def message (advisory : TagAdvisory) : Text :=
  if advisory.isMissing then "No previous version tag found, using 0.0.0 as baseline".toList
  else
    "Tag ".toList ++ quoted (advisory.tag.getD []) ++ " is not a [".toList ++ advisory.tagPrefix ++
      "]MAJOR.MINOR.PATCH version, defaulting to 0.0.0".toList

/-- The code, the message and the form that tags should have. -/
def diagnosis (advisory : TagAdvisory) : Diagnosis where
  code := .versionTagMalformed
  message := advisory.message
  hint :=
    "Tag releases as ".toList ++ advisory.tagPrefix ++ "MAJOR.MINOR.PATCH (e.g. ".toList ++
      advisory.tagPrefix ++ "1.2.3).".toList

end TagAdvisory

structure ComponentDigits where
  major : Text
  minor : Text
  patch : Text
  deriving DecidableEq, Repr

/-- The digits at the start of a text, if there are any, and what follows them. -/
def leadingDigits? (text : Text) : Option (Text × Text) :=
  let digits := text.takeWhile isDigit
  if digits = [] then none else some (digits, text.dropWhile isDigit)

/-- The digits at the start of a text and what follows the dot after them. -/
def dottedDigits? (text : Text) : Option (Text × Text) :=
  match leadingDigits? text with
  | some (digits, '.' :: rest) => some (digits, rest)
  | _ => none

namespace ComponentDigits

/-- The digit runs at the start of a text, perhaps after a `v`. -/
def ofStart? (text : Text) : Option ComponentDigits := do
  let (major, rest) ← dottedDigits? (dropStart ['v'] text)
  let (minor, rest) ← dottedDigits? rest
  let (patch, _) ← leadingDigits? rest
  return ⟨major, minor, patch⟩

/-- The version with these digits, or a failure if a run is too long. -/
def version (digits : ComponentDigits) : Except Failure Version := do
  let major ← readNumber digits.major
  let minor ← readNumber digits.minor
  let patch ← readNumber digits.patch
  return ⟨major, minor, patch⟩

end ComponentDigits

/-- A version read from a tag, with an advisory if it is only the fallback. -/
structure TagReading where
  version : Version
  advisory : Option TagAdvisory
  deriving DecidableEq, Repr

/-- The part of a tag that is read: trimmed, and without the prefix of tags. -/
def tagBody (tagPrefix tag : Text) : Text := dropStart tagPrefix (trim tag)

def readTag (tagPrefix : Text) (tag : Option Text) : Except Failure TagReading :=
  match tag.bind fun tag => ComponentDigits.ofStart? (tagBody tagPrefix tag) with
  | some digits => do return ⟨← digits.version, none⟩
  | none => .ok ⟨.zero, some ⟨tag, tagPrefix⟩⟩

end NextRelease
