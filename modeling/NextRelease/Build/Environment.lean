import NextRelease.Build.Context
import NextRelease.Settings.Basic

/-!
# Contexts from an environment

An environment maps names to texts. Only seven variables are looked at, and of each only the
trimmed text: an absent variable is the same as a blank one.
-/

namespace NextRelease

open Text

/-- Variables with their values; the first entry of a name counts. -/
abbrev Environment := List (Text × Text)

namespace Environment

/-- The trimmed value of a variable, empty if it is absent. -/
def value (environment : Environment) (name : String) : Text :=
  trim ((environment.lookup name.toList).getD [])

/-- The trimmed value of a variable, or `absent` if it is blank. -/
def valueOr (environment : Environment) (name : String) (absent : Text) : Text :=
  let text := environment.value name
  if text = [] then absent else text

/-- The words that set a flag, in lower case. -/
def truthyWords : List Text := ["1".toList, "true".toList, "yes".toList]

/-- A flag is set by one of the words for it, in any case. -/
def flag (environment : Environment) (name : String) : Bool :=
  truthyWords.contains (lowerCase (environment.value name))

/-- The count of commits in the environment: decimal digits, or nothing for zero. -/
def commitCount (environment : Environment) : Except Failure Nat :=
  let digits := environment.valueOr "COMMIT_COUNT" ['0']
  if digits.all isDigit then readNumber digits else .error (.commitCountNotNumber digits)

def buildContext (environment : Environment) (settings : Settings) :
    Except Failure BuildContext := do
  let defaultBranch := environment.valueOr "DEFAULT_BRANCH" settings.defaultBranch
  let commitCount ← environment.commitCount
  let id := environment.value "PR_NUMBER"
  return {
    currentBranch := environment.valueOr "CURRENT_BRANCH" defaultBranch
    defaultBranch
    shortRevision := environment.value "SHORT_SHA"
    isPullRequest := environment.flag "IS_PULL_REQUEST"
    pullRequestId := if id = [] then none else some id
    isReleaseRequested := environment.flag "IS_RELEASE"
    commitCount }

end Environment

end NextRelease
