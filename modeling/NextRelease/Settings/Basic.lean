import NextRelease.Notes.Basic
import NextRelease.Sorting
import NextRelease.Value

/-!
# Settings

Settings say which branch is the default one, how version tags begin, and how release notes look.
A table of settings may leave out any key; a key that means nothing, a value of the wrong kind, a
blank branch and a title without a place for the version are refused, in this order.
-/

namespace NextRelease

open Text

/-- How versions and release notes of a repository are written. -/
structure Settings where
  /-- The default branch when the build does not name one. -/
  defaultBranch : Text := "main".toList
  /-- The start of every version tag. -/
  tagPrefix : Text := "v".toList
  /-- The title of release notes; the placeholder takes the version. -/
  notesTitle : Text := Notes.defaultTitle
  /-- Section headings carry an emoji. -/
  sectionEmoji : Bool := false
  deriving DecidableEq, Repr

namespace Settings

/-- The keys of a table that mean nothing, in code point order. -/
def unknownKeys (entries : List (Text × Value)) : List Text :=
  sortBy precedes ((entries.map (·.1)).filter (!settingKeys.contains ·))

/-- The text under a key, or `absent`. -/
def textEntry (entries : List (Text × Value)) (key absent : Text) : Except Failure Text :=
  match entry? key entries with
  | none => .ok absent
  | some (.text content) => .ok content
  | some value => .error (.notText key value.kind)

/-- The truth value under a key, or `absent`. -/
def booleanEntry (entries : List (Text × Value)) (key : Text) (absent : Bool) :
    Except Failure Bool :=
  match entry? key entries with
  | none => .ok absent
  | some (.boolean truth) => .ok truth
  | some value => .error (.notBoolean key value.kind)

/-- The settings of a table; absent keys keep their defaults. -/
def ofTable (entries : List (Text × Value)) : Except Failure Settings := do
  if unknownKeys entries ≠ [] then throw (.unknownKeys (unknownKeys entries))
  let absent : Settings := {}
  let defaultBranch ← textEntry entries "default_branch".toList absent.defaultBranch
  let tagPrefix ← textEntry entries "tag_prefix".toList absent.tagPrefix
  let notesTitle ← textEntry entries "notes_title".toList absent.notesTitle
  let sectionEmoji ← booleanEntry entries "section_emoji".toList absent.sectionEmoji
  if allBlank defaultBranch then throw .blankDefaultBranch
  if !occursIn placeholder notesTitle then throw .missingPlaceholder
  return { defaultBranch, tagPrefix, notesTitle, sectionEmoji }

def toTable (settings : Settings) : List (Text × Value) := [
  ("default_branch".toList, .text settings.defaultBranch),
  ("tag_prefix".toList, .text settings.tagPrefix),
  ("notes_title".toList, .text settings.notesTitle),
  ("section_emoji".toList, .boolean settings.sectionEmoji)]

end Settings

end NextRelease
