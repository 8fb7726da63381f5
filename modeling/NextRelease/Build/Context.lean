import NextRelease.Version.Basic

/-!
# Build contexts and scenarios

A build is in exactly one of four scenarios, tried in order: a pull request, a branch other than
the default one, a requested release, and any other build of the default branch. The scenario
decides the suffix that the version receives. A release request on another branch is ignored.
-/

namespace NextRelease

open Text

/-- Where and why a build runs. -/
structure BuildContext where
  currentBranch : Text
  defaultBranch : Text
  /-- The abbreviated revision that is built. -/
  shortRevision : Text
  isPullRequest : Bool := false
  pullRequestId : Option Text := none
  isReleaseRequested : Bool := false
  /-- The number of commits since the last version tag. -/
  commitCount : Nat := 0
  deriving DecidableEq, Repr

/-- The context with a commit count, which must not be negative. -/
def BuildContext.withCommitCount (context : BuildContext) (count : Int) :
    Except Failure BuildContext :=
  if 0 ≤ count then .ok { context with commitCount := count.toNat }
  else if (signedNumeral? count).isSome then .error (.negativeCommitCount count)
  else .error .numberTooLong

/-- The scenarios that decide the suffix of a version. -/
inductive Scenario
  | pullRequest | otherBranch | release | mainBuild
  deriving DecidableEq, Repr

namespace Scenario

/-- The scenarios in the order in which they are tried. -/
def all : List Scenario := [pullRequest, otherBranch, release, mainBuild]

def name : Scenario → Text
  | pullRequest => "pull_request".toList
  | otherBranch => "non_default_branch".toList
  | release => "release".toList
  | mainBuild => "main_build".toList

def ofName : Text → Except Failure Scenario := memberOfName .scenario all name

end Scenario

namespace BuildContext

def scenario (context : BuildContext) : Scenario :=
  if context.isPullRequest then .pullRequest
  else if context.currentBranch ≠ context.defaultBranch then .otherBranch
  else if context.isReleaseRequested then .release
  else .mainBuild

/-- The trimmed identifier of a pull request, unless it is missing or blank. -/
def trimmedId? (context : BuildContext) : Option Text :=
  let id := trim (context.pullRequestId.getD [])
  if id = [] then none else some id

def suffix (context : BuildContext) : Except Failure Text :=
  match context.scenario with
  | .pullRequest =>
    match context.trimmedId? with
    | some id => .ok ("-pr".toList ++ id ++ '+' :: context.shortRevision)
    | none => .error .missingPullRequestId
  | .otherBranch => .ok ("-br+".toList ++ context.shortRevision)
  | .release => .ok []
  | .mainBuild => do
    return "-rc".toList ++ (← writeNumber context.commitCount) ++ '+' :: context.shortRevision

/-- Why a scenario was chosen, in one sentence. -/
def scenarioReason (context : BuildContext) : Scenario → Text
  | .pullRequest =>
    "Pull request build (PR #".toList ++ context.pullRequestId.getD "None".toList ++ ")".toList
  | .otherBranch => "Non-default branch build (".toList ++ context.currentBranch ++ ")".toList
  | .release => "Release build on default branch (".toList ++ context.defaultBranch ++ ")".toList
  | .mainBuild => "Main build (default branch, non-release)".toList

end BuildContext

def publishedVersion (base : Version) (suffix : Text) : Except Failure Text := do
  return (← base.write) ++ suffix

end NextRelease
