import NextRelease.Proofs.Build.Suffix
import NextRelease.Proofs.Commit.Counts
import NextRelease.Proofs.Version.Order
import NextRelease.Proofs.Version.ReadBack
import NextRelease.Resolution.Basic

/-!
# What a resolution answers

A resolution that gives an answer gives one of two: the previous version as it is when no commit
has any text, and else the next version with the suffix of the build. Everything that is said of
resolutions goes through `resolve_eq_ok_iff`, which names both answers and when they are given.
-/

namespace NextRelease

open Text

namespace Request

/-- The answer when no commit has any text. -/
def unchangedAnswer (request : Request) (reading : TagReading) : Resolution where
  finalVersion := reading.version.text
  baseVersion := reading.version
  scenario := request.context.scenario
  releaseNotes := request.notes reading.version.text
  previousVersion := reading.version
  lastTag := request.lastTag.getD []
  versionReason := unchangedReason
  suffixReason := unchangedReason
  advisories := (reading.advisory.map TagAdvisory.message).toList

/-- The answer when there are commits. -/
def changedAnswer (request : Request) (reading : TagReading) (versionReason : Text) :
    Resolution where
  finalVersion := (reading.version.bump request.counts).text ++ request.context.suffixText
  baseVersion := reading.version.bump request.counts
  scenario := request.context.scenario
  releaseNotes :=
    request.notes ((reading.version.bump request.counts).text ++ request.context.suffixText)
  previousVersion := reading.version
  lastTag := request.lastTag.getD []
  increment := request.counts.increment
  counts := request.counts
  commits := request.commits
  versionReason := versionReason
  suffixReason := request.context.scenarioReason request.context.scenario
  advisories := (reading.advisory.map TagAdvisory.message).toList

/-- The previous version has to be written, and then the answer stands. -/
theorem unchanged_eq (request : Request) (reading : TagReading) :
    request.unchanged reading = do
      let _ ← reading.version.write
      return request.unchangedAnswer reading := by
  unfold unchanged
  cases hwrite : reading.version.write with
  | error failure => rfl
  | ok version =>
    obtain ⟨_, rfl⟩ := Version.write_eq_ok_iff.mp hwrite
    rfl

/-- The next version and the reason have to be written, and then the answer stands. -/
theorem changed_eq (request : Request) (reading : TagReading) :
    request.changed reading request.context.suffixText = do
      let _ ← (reading.version.bump request.counts).write
      let reason ← request.counts.reason
      return request.changedAnswer reading reason := by
  simp only [changed, publishedVersion]
  cases hwrite : (reading.version.bump request.counts).write with
  | error failure => rfl
  | ok version =>
    obtain ⟨_, rfl⟩ := Version.write_eq_ok_iff.mp hwrite
    rfl

theorem unchanged_eq_ok_iff {request : Request} {reading : TagReading} {resolution : Resolution} :
    request.unchanged reading = .ok resolution ↔
      reading.version.IsWritable ∧ resolution = request.unchangedAnswer reading := by
  simp [unchanged_eq, bind_eq_ok_iff, pure_eq_ok_iff, Version.write_eq_ok_iff, -bind_pure_comp]

theorem changed_eq_ok_iff {request : Request} {reading : TagReading} {resolution : Resolution} :
    request.changed reading request.context.suffixText = .ok resolution ↔
      (reading.version.bump request.counts).IsWritable ∧ ∃ reason,
        request.counts.reason = .ok reason ∧
          resolution = request.changedAnswer reading reason := by
  simp [changed_eq, bind_eq_ok_iff, pure_eq_ok_iff, Version.write_eq_ok_iff, -bind_pure_comp]

/-- The request is answered by the previous version as it is. -/
def AnswersUnchanged (request : Request) (reading : TagReading) (resolution : Resolution) : Prop :=
  request.commits = [] ∧ reading.version.IsWritable ∧
    resolution = request.unchangedAnswer reading

/-- The request is answered by the next version. -/
def AnswersChanged (request : Request) (reading : TagReading) (resolution : Resolution) : Prop :=
  request.commits ≠ [] ∧ (reading.version.bump request.counts).IsWritable ∧
    ∃ reason, request.counts.reason = .ok reason ∧
      resolution = request.changedAnswer reading reason

end Request

/-- A resolution in terms of its answers: what has to be written decides whether there is one. -/
theorem resolve_eq (request : Request) : resolve request = do
    let _ ← request.context.suffix
    let reading ← request.reading
    if request.commits = [] then
      let _ ← reading.version.write
      return request.unchangedAnswer reading
    else
      let _ ← (reading.version.bump request.counts).write
      let reason ← request.counts.reason
      return request.changedAnswer reading reason := by
  unfold resolve
  cases hsuffix : request.context.suffix with
  | error failure => rfl
  | ok suffix =>
    obtain ⟨_, rfl⟩ := BuildContext.suffix_eq_ok_iff.mp hsuffix
    change (request.reading >>= fun reading =>
      if request.commits = [] then request.unchanged reading
      else request.changed reading request.context.suffixText) = _
    simp only [Request.unchanged_eq, Request.changed_eq]
    rfl

/-- The answers of a resolution, and when there is one. -/
theorem resolve_eq_ok_iff {request : Request} {resolution : Resolution} :
    resolve request = .ok resolution ↔
      request.context.AllowsSuffix ∧ ∃ reading, request.reading = .ok reading ∧
        (request.AnswersUnchanged reading resolution ∨
          request.AnswersChanged reading resolution) := by
  simp only [resolve, bind_eq_ok_iff, BuildContext.suffix_eq_ok_iff]
  constructor
  · rintro ⟨suffix, ⟨hsuffix, rfl⟩, reading, hreading, h⟩
    refine ⟨hsuffix, reading, hreading, ?_⟩
    split at h
    · next hcommits => exact .inl ⟨hcommits, Request.unchanged_eq_ok_iff.mp h⟩
    · next hcommits => exact .inr ⟨hcommits, Request.changed_eq_ok_iff.mp h⟩
  · rintro ⟨hsuffix, reading, hreading, ⟨hcommits, h⟩ | ⟨hcommits, h⟩⟩
    · refine ⟨_, ⟨hsuffix, rfl⟩, reading, hreading, ?_⟩
      rw [if_pos hcommits]
      exact Request.unchanged_eq_ok_iff.mpr h
    · refine ⟨_, ⟨hsuffix, rfl⟩, reading, hreading, ?_⟩
      rw [if_neg hcommits]
      exact Request.changed_eq_ok_iff.mpr h

/--
Two requests are resolved alike if their contexts have one suffix and their tags one reading, if
they count the same commits, and if their answers correspond.
-/
theorem map_resolve_eq {f g : Resolution → Resolution} {first second : Request}
    (hsuffix : first.context.suffix = second.context.suffix)
    (hreading : first.reading = second.reading)
    (hnone : first.commits = [] ↔ second.commits = []) (hcounts : first.counts = second.counts)
    (hunchanged : second.commits = [] →
      ∀ reading, f (first.unchangedAnswer reading) = g (second.unchangedAnswer reading))
    (hchanged : ∀ reading reason,
      f (first.changedAnswer reading reason) = g (second.changedAnswer reading reason)) :
    f <$> resolve first = g <$> resolve second := by
  by_cases hcommits : second.commits = []
  · simp only [resolve_eq, if_pos hcommits, if_pos (hnone.mpr hcommits), hsuffix, hreading,
      map_bind, map_pure, hunchanged hcommits]
  · simp only [resolve_eq, if_neg hcommits, if_neg (mt hnone.mp hcommits), hsuffix, hreading,
      hcounts, map_bind, map_pure, hchanged]

/-- A request has commits exactly if some message is not blank. -/
theorem Request.commits_ne_nil_iff {request : Request} :
    request.commits ≠ [] ↔ ∃ message ∈ request.messages, allBlank message = false := by
  simp [commits, classifyAll, List.filter_eq_nil_iff]

/-! ## What every answer holds -/

/-- Every answer takes the version and the advisories from the reading of the tag. -/
theorem resolve_reading {request : Request} {resolution : Resolution}
    (h : resolve request = .ok resolution) :
    ∃ reading, request.reading = .ok reading ∧ resolution.previousVersion = reading.version ∧
      resolution.advisories = (reading.advisory.map TagAdvisory.message).toList := by
  obtain ⟨_, reading, hreading, ⟨_, _, rfl⟩ | ⟨_, _, _, _, rfl⟩⟩ := resolve_eq_ok_iff.mp h
  · exact ⟨reading, hreading, rfl, rfl⟩
  · exact ⟨reading, hreading, rfl, rfl⟩

theorem resolve_scenario {request : Request} {resolution : Resolution}
    (h : resolve request = .ok resolution) : resolution.scenario = request.context.scenario := by
  obtain ⟨_, _, _, ⟨_, _, rfl⟩ | ⟨_, _, _, _, rfl⟩⟩ := resolve_eq_ok_iff.mp h
  · rfl
  · rfl

theorem resolve_lastTag {request : Request} {resolution : Resolution}
    (h : resolve request = .ok resolution) : resolution.lastTag = request.lastTag.getD [] := by
  obtain ⟨_, _, _, ⟨_, _, rfl⟩ | ⟨_, _, _, _, rfl⟩⟩ := resolve_eq_ok_iff.mp h
  · rfl
  · rfl

/-- What every answer takes over from the commits of the request. -/
theorem resolve_commits {request : Request} {resolution : Resolution}
    (h : resolve request = .ok resolution) :
    resolution.commits = request.commits ∧ resolution.counts = request.counts ∧
      resolution.releaseNotes = request.notes resolution.finalVersion := by
  obtain ⟨_, _, _, ⟨hcommits, _, rfl⟩ | ⟨_, _, _, _, rfl⟩⟩ := resolve_eq_ok_iff.mp h
  · have hcounts : request.counts = {} := by
      rw [Request.counts, hcommits]
      rfl
    exact ⟨hcommits.symm, hcounts.symm, rfl⟩
  · exact ⟨rfl, rfl, rfl⟩

theorem resolve_counts {request : Request} {resolution : Resolution}
    (h : resolve request = .ok resolution) :
    resolution.counts = Counts.ofCommits resolution.commits := by
  rw [(resolve_commits h).2.1, (resolve_commits h).1]
  rfl

/-- The counts decide the increment, and the increment the version. -/
theorem resolve_increment {request : Request} {resolution : Resolution}
    (h : resolve request = .ok resolution) :
    resolution.increment = resolution.counts.incrementIfAny ∧
      resolution.baseVersion = resolution.previousVersion.after resolution.increment := by
  obtain ⟨_, _, _, ⟨_, _, rfl⟩ | ⟨hcommits, _, _, _, rfl⟩⟩ := resolve_eq_ok_iff.mp h
  · exact ⟨rfl, rfl⟩
  · have htotal : 0 < request.counts.total := by
      rw [Request.counts, Counts.total_ofCommits]
      exact List.length_pos_of_ne_nil hcommits
    exact ⟨(Counts.incrementIfAny_eq_increment htotal).symm,
      (Version.after_of_ne_none request.counts.increment_ne_none _).symm⟩

/-- With commits the version to publish is the base version with the suffix of the build. -/
theorem resolve_finalVersion {request : Request} {resolution : Resolution}
    (h : resolve request = .ok resolution)
    (hcommit : ∃ message ∈ request.messages, allBlank message = false) :
    resolution.baseVersion.IsWritable ∧
      resolution.finalVersion = resolution.baseVersion.text ++ request.context.suffixText := by
  obtain ⟨_, _, _, ⟨hnone, _⟩ | ⟨_, hwritable, _, _, rfl⟩⟩ := resolve_eq_ok_iff.mp h
  · exact absurd hnone (Request.commits_ne_nil_iff.mpr hcommit)
  · exact ⟨hwritable, rfl⟩

/-- Without commits the version to publish is the base version alone. -/
theorem resolve_finalVersion_of_blank {request : Request} {resolution : Resolution}
    (h : resolve request = .ok resolution)
    (hblank : ∀ message ∈ request.messages, allBlank message = true) :
    resolution.finalVersion = resolution.baseVersion.text := by
  obtain ⟨_, _, _, ⟨_, _, rfl⟩ | ⟨hcommits, _⟩⟩ := resolve_eq_ok_iff.mp h
  · rfl
  · obtain ⟨message, hmem, hmessage⟩ := Request.commits_ne_nil_iff.mp hcommits
    rw [hblank message hmem] at hmessage
    cases hmessage

/-- Only the build context can bring a newline into the version to publish. -/
theorem newline_mem_finalVersion {request : Request} {resolution : Resolution}
    (h : resolve request = .ok resolution) :
    '\n' ∈ resolution.finalVersion ↔
      (∃ message ∈ request.messages, allBlank message = false) ∧
        resolution.scenario ≠ .release ∧
        ('\n' ∈ request.context.shortRevision ∨
          resolution.scenario = .pullRequest ∧
            '\n' ∈ trim (request.context.pullRequestId.getD [])) := by
  rw [← Request.commits_ne_nil_iff]
  obtain ⟨_, reading, _, ⟨hcommits, _, rfl⟩ | ⟨hcommits, _, _, _, rfl⟩⟩ :=
    resolve_eq_ok_iff.mp h
  · simp [Request.unchangedAnswer, hcommits, Version.newline_notMem_text]
  · simp only [Request.changedAnswer, List.mem_append, Version.newline_notMem_text, false_or,
      BuildContext.newline_mem_suffixText]
    exact (and_iff_right hcommits).symm

end NextRelease
