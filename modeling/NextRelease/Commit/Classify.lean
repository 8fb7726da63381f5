import NextRelease.Commit.Category
import NextRelease.Text.Blank
import NextRelease.Text.Caseless
import NextRelease.Text.LowerCase

/-!
# Classification of commit messages

A message is judged by its subject, the first line that is not blank, and by the footer that
announces a breaking change, which may stand anywhere. The rules are tried in order and the first
that applies decides. All matching ignores case; the words at the start of a subject match
loosely, so that `feature:` counts as a feature and `docs(api):` as documentation.
-/

namespace NextRelease

open Text

/-- A message with the category it belongs to. -/
structure Commit where
  /-- The whole message as it was written. -/
  message : Text
  category : Category
  deriving DecidableEq, Repr

/-- The first line of the message that has text, if there is one, without blanks at its edges. -/
def subjectLine (message : Text) : Text :=
  let stripped := trim message
  if stripped = [] then [] else trim (firstLine stripped)

/-- The first line of a blank message is empty as well. -/
theorem subjectLine_eq (message : Text) :
    subjectLine message = trim (firstLine (trim message)) := by
  unfold subjectLine
  dsimp only
  split
  · next hblank => rw [hblank]; rfl
  · rfl

/-- The first line of the message, without blanks at its edges. -/
def Commit.subject (commit : Commit) : Text := trim (firstLine (trim commit.message))

/-- The footer that announces a breaking change stands somewhere in the message. -/
def hasBreakingFooter (message : Text) : Bool := occursCaseless "BREAKING CHANGE:".toList message

/-- A scope in parentheses at the start is skipped: a non-empty text without a closing one. -/
def dropScope : Text → Text
  | [] => []
  | c :: rest =>
    if c = '(' ∧ rest.takeWhile (· ≠ ')') ≠ [] ∧ ')' ∈ rest then (rest.dropWhile (· ≠ ')')).drop 1
    else c :: rest

/-- The subject begins with letters, perhaps a scope, and then an exclamation mark and a colon. -/
def isBreakingSubject (subject : Text) : Bool :=
  !(subject.takeWhile isLatinLetter).isEmpty &&
    "!:".toList.isPrefixOf (dropScope (subject.dropWhile isLatinLetter))

def startsWithWord (words : List Text) (subject : Text) : Bool :=
  words.any fun word => word.isPrefixOf (lowerCase subject)

def choreWords : List Text :=
  ["chore".toList, "refactor".toList, "style".toList, "test".toList, "ci".toList, "build".toList]

/-- A row of the classification table: a category and the test on message and subject. -/
structure Rule where
  category : Category
  applies : Text → Text → Bool

/-- The classification table; the order of the rows is the order in which they are tried. -/
def classificationRules : List Rule := [
  ⟨.breaking, fun message subject => hasBreakingFooter message || isBreakingSubject subject⟩,
  ⟨.feature, fun _ subject => startsWithWord ["feat".toList] subject⟩,
  ⟨.fix, fun _ subject => startsWithWord ["fix".toList] subject⟩,
  ⟨.docs, fun _ subject => startsWithWord ["doc".toList] subject⟩,
  ⟨.chore, fun _ subject => startsWithWord choreWords subject⟩]

def matchingCategories (message subject : Text) : List Category :=
  (classificationRules.filter (·.applies message subject)).map (·.category)

/-- The category of a message; a blank message and one to which no row applies are `other`. -/
def classify (message : Text) : Category :=
  if allBlank message then .other
  else (matchingCategories message (subjectLine message)).headD .other

/-- The messages that are not blank, each with its category, in the given order. -/
def classifyAll (messages : List Text) : List Commit :=
  (messages.filter (!allBlank ·)).map fun message => ⟨message, classify message⟩

end NextRelease
