import NextRelease.Log.Line
import NextRelease.Proofs.Resolution.Failures
import NextRelease.Resolution.Events

/-!
# The report of a resolution

What a resolution reports on its way is what its answer says at the end: a warning exactly if there
is an advisory, the counts of the classified messages, and the version with what it comes from. So
a reader of the events and a reader of the answer learn the same, with commits and without.
-/

namespace NextRelease

open Text

/-! ## The report of an answer -/

namespace Request

/-- The warning about the last tag. -/
def tagWarning (request : Request) : Event where
  level := .warning
  logger := Event.resolverName
  name := "version_tag_malformed".toList
  fields := [
    ("tag".toList, (request.lastTag.map Value.text).getD .null),
    ("code".toList, .text "VK-VERSION-TAG-MALFORMED".toList)]

@[simp]
theorem level_tagWarning (request : Request) : request.tagWarning.level = .warning := rfl

/-- How many messages are classified, and how many belong to each category. -/
def countsReport (request : Request) : Event :=
  let commits := classifyAll request.messages
  { level := .debug
    logger := Event.resolverName
    name := "commits_classified".toList
    fields :=
      ("total".toList, .integer commits.length) ::
        Category.all.map fun category =>
          (category.name, .integer (commits.countP (·.category = category))) }

@[simp]
theorem level_countsReport (request : Request) : request.countsReport.level = .debug := rfl

end Request

namespace Resolution

/-- The version that an answer keeps, or the one that it arrives at. -/
def versionReport (resolution : Resolution) : Event :=
  let scenario := ("scenario".toList, Value.text resolution.scenario.name)
  if resolution.commits = [] then
    { level := .info
      logger := Event.resolverName
      name := "version_unchanged".toList
      fields := [("version".toList, .text resolution.finalVersion), scenario] }
  else
    { level := .info
      logger := Event.resolverName
      name := "version_resolved".toList
      fields := [
        ("previous".toList, .text resolution.previousVersion.text),
        ("base".toList, .text resolution.baseVersion.text),
        ("version".toList, .text resolution.finalVersion),
        scenario] }

@[simp]
theorem level_versionReport (resolution : Resolution) : resolution.versionReport.level = .info := by
  unfold versionReport
  split
  · rfl
  · rfl

/-- All that is reported about an answer to a request, in order. -/
def report (request : Request) (resolution : Resolution) : List Event :=
  (if resolution.advisories = [] then [] else [request.tagWarning]) ++
    [request.countsReport, resolution.versionReport]

end Resolution

/-! ## Events are the report -/

namespace Request

variable {request : Request} {reading : TagReading}

theorem advisoryEvents_eq :
    request.advisoryEvents reading =
      if (reading.advisory.map TagAdvisory.message).toList = [] then []
      else [request.tagWarning] := by
  unfold advisoryEvents
  cases reading.advisory with
  | none => rfl
  | some advisory => rfl

theorem countsEvent_eq (request : Request) : request.countsEvent = request.countsReport := by
  have htotal : request.counts.total = request.commits.length := Counts.total_ofCommits _
  simp only [countsEvent, countsReport, Counts.byCategory, List.map_map, htotal]
  simp only [counts, Counts.get_ofCommits, commits, Function.comp_def]

/-- Without commits the previous version is reported as it is written. -/
theorem versionEvents_of_unchanged {resolution : Resolution} {suffix : Text}
    (h : request.AnswersUnchanged reading resolution) :
    request.versionEvents reading suffix = [resolution.versionReport] := by
  obtain ⟨hcommits, hwritable, rfl⟩ := h
  have hwrite : reading.version.write = .ok reading.version.text :=
    Version.write_eq_ok_iff.mpr ⟨hwritable, rfl⟩
  rw [versionEvents, if_pos hcommits, hwrite]
  rfl

/-- With commits the previous version, the base version and the one to publish are reported. -/
theorem versionEvents_of_changed {resolution : Resolution} (hprevious : reading.version.IsWritable)
    (h : request.AnswersChanged reading resolution) :
    request.versionEvents reading request.context.suffixText = [resolution.versionReport] := by
  obtain ⟨hcommits, hbase, reason, _, rfl⟩ := h
  have hpublished : publishedVersion (reading.version.bump request.counts)
      request.context.suffixText =
        .ok ((reading.version.bump request.counts).text ++ request.context.suffixText) := by
    rw [publishedVersion, Version.write_eq_ok_iff.mpr ⟨hbase, rfl⟩]
    rfl
  simp only [versionEvents, if_neg hcommits, hpublished,
    Version.write_eq_ok_iff.mpr ⟨hprevious, rfl⟩, Version.write_eq_ok_iff.mpr ⟨hbase, rfl⟩]
  exact congrArg (fun event => [event]) (if_neg hcommits).symm

/-! ## How the events are logged -/

/-- The event goes through the logger of the resolver, and nothing stands below its line. -/
def IsPlain (event : Event) : Prop := event.logger = Event.resolverName ∧ event.trace? = some []

theorem isPlain_of_mem_versionEvents {suffix : Text} {event : Event}
    (h : event ∈ request.versionEvents reading suffix) : IsPlain event := by
  unfold versionEvents at h
  by_cases hcommits : request.commits = []
  · rw [if_pos hcommits] at h
    cases hwrite : reading.version.write with
    | error failure => simp [hwrite] at h
    | ok version =>
      simp only [hwrite, List.mem_singleton] at h
      subst h
      exact ⟨rfl, rfl⟩
  · simp only [if_neg hcommits] at h
    split at h
    · simp only [List.mem_singleton] at h
      subst h
      exact ⟨rfl, rfl⟩
    · cases h

/-- Every event of a resolution is plain, also if a failure cuts the report off. -/
theorem isPlain_of_mem_events {event : Event} (h : event ∈ request.events) : IsPlain event := by
  unfold events at h
  split at h
  · rcases List.mem_append.mp h with hadvisory | hrest
    · obtain ⟨_, _, rfl⟩ := List.mem_map.mp hadvisory
      exact ⟨rfl, rfl⟩
    · cases hrest with
      | head => exact ⟨rfl, rfl⟩
      | tail _ hversion => exact isPlain_of_mem_versionEvents hversion
  · cases h

end Request

/-- A resolution that gives an answer reports this answer, and nothing else. -/
theorem events_of_resolve {request : Request} {resolution : Resolution}
    (h : resolve request = .ok resolution) : request.events = resolution.report request := by
  obtain ⟨hsuffix, reading, hreading, hanswer⟩ := resolve_eq_ok_iff.mp h
  have hwritten : request.context.suffix = .ok request.context.suffixText :=
    BuildContext.suffix_eq_ok_iff.mpr ⟨hsuffix, rfl⟩
  simp only [Request.events, hwritten, hreading, Request.advisoryEvents_eq, Request.countsEvent_eq,
    Resolution.report]
  cases hanswer with
  | inl hunchanged =>
    rw [Request.versionEvents_of_unchanged hunchanged, hunchanged.2.2]
    rfl
  | inr hchanged =>
    have hprevious := (Request.reading_eq_ok hreading).2.1
    rw [Request.versionEvents_of_changed hprevious hchanged]
    obtain ⟨_, _, _, _, rfl⟩ := hchanged
    rfl

end NextRelease
