import NextRelease.Text.Basic

/-!
# Semantic versions

A semantic version has three numbers joined by dots, and perhaps a pre-release after a hyphen and
a build after a plus sign. Both are identifiers joined by dots. Neither a number nor a pre-release
identifier that consists of digits begins with a superfluous zero.
-/

namespace NextRelease

open Text

namespace Semantic

/-- A digit of a semantic version, which only the ten basic digits are. -/
def isDigit (c : Char) : Bool := '0' ≤ c && c ≤ '9'

def isIdentifierChar (c : Char) : Bool :=
  isDigit c || ('a' ≤ c && c ≤ 'z') || ('A' ≤ c && c ≤ 'Z') || c == '-'

/-- The text begins with a zero that something follows. -/
def hasLeadingZero : Text → Bool
  | '0' :: _ :: _ => true
  | _ => false

/-- Digits without a superfluous zero. -/
def isNumber (text : Text) : Bool := text ≠ [] && text.all isDigit && !hasLeadingZero text

/-- A non-empty text of identifier characters. -/
def isIdentifier (text : Text) : Bool := text ≠ [] && text.all isIdentifierChar

/-- An identifier that is a number if it consists of digits. -/
def isPreReleaseIdentifier (text : Text) : Bool :=
  isIdentifier text && (!text.all isDigit || isNumber text)

def isBuild (text : Text) : Bool := (split (· = '.') text).all isIdentifier

def isPreRelease (text : Text) : Bool := (split (· = '.') text).all isPreReleaseIdentifier

structure Parts where
  major : Text
  minor : Text
  patch : Text
  preRelease : Option Text := none
  build : Option Text := none
  deriving DecidableEq, Repr

namespace Parts

def isValid (parts : Parts) : Bool :=
  isNumber parts.major && isNumber parts.minor && isNumber parts.patch &&
    parts.preRelease.all isPreRelease && parts.build.all isBuild

/-- An optional part after its mark. -/
def marked (mark : Char) : Option Text → Text
  | none => []
  | some part => mark :: part

def text (parts : Parts) : Text :=
  parts.major ++ '.' :: parts.minor ++ '.' :: parts.patch ++ marked '-' parts.preRelease ++
    marked '+' parts.build

end Parts

end Semantic

/-- The text is a semantic version: it is written from parts that have their form. -/
def IsSemantic (text : Text) : Prop := ∃ parts : Semantic.Parts, parts.isValid ∧ parts.text = text

end NextRelease
