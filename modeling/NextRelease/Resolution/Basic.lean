import NextRelease.Build.Context
import NextRelease.Settings.Basic
import NextRelease.Version.Tag

/-!
# Resolution

A resolution takes the last version tag, the messages of the commits since then and the build
context, and answers the next version with its release notes. Version and notes come from one
classification, so they cannot disagree. Without any commit that has text the version stays as it
is and receives no suffix.
-/

namespace NextRelease

open Text

/-- What a resolution starts from. -/
structure Request where
  /-- The last version tag. -/
  lastTag : Option Text
  /-- The messages of the commits since that tag, in order. -/
  messages : List Text
  context : BuildContext
  settings : Settings := {}

/-- Everything a resolution finds out. -/
structure Resolution where
  /-- The version to publish, with its suffix. -/
  finalVersion : Text
  baseVersion : Version
  scenario : Scenario
  releaseNotes : Text
  /-- The version that the last tag stands for. -/
  previousVersion : Version
  lastTag : Text := []
  increment : Increment := .none
  counts : Counts := {}
  commits : List Commit := []
  versionReason : Text := []
  suffixReason : Text := []
  /-- Anomalies that did not stop the resolution. -/
  advisories : List Text := []
  deriving DecidableEq, Repr

def Resolution.commitCount (resolution : Resolution) : Nat := resolution.commits.length

namespace Request

def commits (request : Request) : List Commit := classifyAll request.messages

def counts (request : Request) : Counts := Counts.ofCommits request.commits

def reading (request : Request) : Except Failure TagReading :=
  readTag request.settings.tagPrefix request.lastTag

/-- The release notes of the request under a version. -/
def notes (request : Request) (version : Text) : Text :=
  Notes.render version request.commits request.settings.notesTitle request.settings.sectionEmoji

/-- The reason for both the version and the suffix when nothing changed. -/
def unchangedReason : Text := "No commits since last tag, version unchanged".toList

/-- The resolution when no commit has any text: the previous version, without a suffix. -/
def unchanged (request : Request) (reading : TagReading) : Except Failure Resolution := do
  let version ← reading.version.write
  return {
    finalVersion := version
    baseVersion := reading.version
    scenario := request.context.scenario
    releaseNotes := request.notes version
    previousVersion := reading.version
    lastTag := request.lastTag.getD []
    versionReason := unchangedReason
    suffixReason := unchangedReason
    advisories := (reading.advisory.map TagAdvisory.message).toList }

/-- The resolution when there are commits: the next version with the suffix of the build. -/
def changed (request : Request) (reading : TagReading) (suffix : Text) :
    Except Failure Resolution := do
  let counts := request.counts
  let base := reading.version.bump counts
  let version ← publishedVersion base suffix
  let versionReason ← counts.reason
  return {
    finalVersion := version
    baseVersion := base
    scenario := request.context.scenario
    releaseNotes := request.notes version
    previousVersion := reading.version
    lastTag := request.lastTag.getD []
    increment := counts.increment
    counts
    commits := request.commits
    versionReason
    suffixReason := request.context.scenarioReason request.context.scenario
    advisories := (reading.advisory.map TagAdvisory.message).toList }

end Request

def resolve (request : Request) : Except Failure Resolution := do
  let suffix ← request.context.suffix
  let reading ← request.reading
  if request.commits = [] then request.unchanged reading else request.changed reading suffix

end NextRelease
