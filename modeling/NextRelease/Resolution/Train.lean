import NextRelease.Resolution.Basic

/-!
# Release trains

A train resolves one request after the other and keeps the last version tag: a release with
commits publishes its tag, every other step leaves the tag as it is.
-/

namespace NextRelease

open Text

namespace Train

structure Step where
  messages : List Text
  context : BuildContext

def Step.request (step : Step) (settings : Settings) (tag : Option Text) : Request :=
  ⟨tag, step.messages, step.context, settings⟩

/-- The resolution publishes a tag: it is a release with commits. -/
def publishes (resolution : Resolution) : Bool :=
  resolution.scenario = .release && resolution.increment ≠ .none

def tagAfter (settings : Settings) (tag : Option Text) :
    Except Failure Resolution → Option Text
  | .ok resolution =>
    match resolution.baseVersion.tag settings.tagPrefix with
    | .ok published => if publishes resolution then some published else tag
    | .error _ => tag
  | .error _ => tag

/-- The outcome of a step and the tag after it. -/
def advance (settings : Settings) (tag : Option Text) (step : Step) :
    Except Failure Resolution × Option Text :=
  let outcome := resolve (step.request settings tag)
  (outcome, tagAfter settings tag outcome)

/-- The outcomes of all steps, each with the tag after it. -/
def run (settings : Settings) (tag : Option Text) :
    List Step → List (Except Failure Resolution × Option Text)
  | [] => []
  | step :: rest =>
    let (outcome, next) := advance settings tag step
    (outcome, next) :: run settings next rest

end Train

end NextRelease
