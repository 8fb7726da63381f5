import NextRelease.Log.Event
import NextRelease.Resolution.Basic

/-!
# Events of a resolution

A resolution reports a tag that it could not read, then the counts of the commits, and at last the
version. A failure cuts the report off where it happens.
-/

namespace NextRelease

open Text

namespace Request

/-- The event of a tag that was not read as a version. -/
def advisoryEvents (request : Request) (reading : TagReading) : List Event :=
  reading.advisory.toList.map fun advisory => {
    level := .warning
    logger := Event.resolverName
    name := "version_tag_malformed".toList
    fields := [
      ("tag".toList, (request.lastTag.map Value.text).getD .null),
      ("code".toList, .text advisory.diagnosis.code.name)] }

def countsEvent (request : Request) : Event where
  level := .debug
  logger := Event.resolverName
  name := "commits_classified".toList
  fields :=
    ("total".toList, .integer request.counts.total) ::
      request.counts.byCategory.map fun (category, count) => (category.name, .integer count)

/-- The event that reports the version, if the version can be written. -/
def versionEvents (request : Request) (reading : TagReading) (suffix : Text) : List Event :=
  if request.commits = [] then
    match reading.version.write with
    | .error _ => []
    | .ok version => [{
        level := .info
        logger := Event.resolverName
        name := "version_unchanged".toList
        fields := [
          ("version".toList, .text version),
          ("scenario".toList, .text request.context.scenario.name)] }]
  else
    let base := reading.version.bump request.counts
    match publishedVersion base suffix, reading.version.write, base.write with
    | .ok version, .ok previous, .ok base => [{
        level := .info
        logger := Event.resolverName
        name := "version_resolved".toList
        fields := [
          ("previous".toList, .text previous),
          ("base".toList, .text base),
          ("version".toList, .text version),
          ("scenario".toList, .text request.context.scenario.name)] }]
    | _, _, _ => []

/-- The events of a resolution in order; a failure cuts them off where it happens. -/
def events (request : Request) : List Event :=
  match request.context.suffix, request.reading with
  | .ok suffix, .ok reading =>
    request.advisoryEvents reading ++ request.countsEvent :: request.versionEvents reading suffix
  | _, _ => []

end Request

end NextRelease
