import NextRelease.Proofs.Report.Table

/-!
# The marks of an unchanged resolution

That nothing changed shows in many places of an answer: it has no commits and no counts, its
increment is none, its base version is the previous one, its version to publish is the previous one
as it is written, and version and suffix have the same reason. Each of these marks is there exactly
if every message is blank, so a reader may go by any of them (`resolve_unchanged_iff`). The two that
are texts cannot come about by accident: what follows a greater base version never makes it the
previous one, and the reasons for an increment and for a suffix differ in their first two letters,
whatever names the build brings.
-/

namespace NextRelease

open Text

/-! ## Reasons -/

/-- How the reasons for an increment begin. -/
theorem Counts.take_reason {counts : Counts} {reason : Text} (h : counts.reason = .ok reason) :
    reason.take 2 ∈ ["Br".toList, "Fe".toList, "Pa".toList] := by
  unfold Counts.reason at h
  cases hincrement : counts.increment with
  | major =>
    rw [hincrement] at h
    obtain ⟨_, _, hreason⟩ := bind_eq_ok_iff.mp h
    rw [pure_eq_ok_iff.mp hreason]
    exact List.mem_cons_self
  | minor =>
    rw [hincrement] at h
    obtain ⟨_, _, hreason⟩ := bind_eq_ok_iff.mp h
    rw [pure_eq_ok_iff.mp hreason]
    exact List.mem_cons_of_mem _ List.mem_cons_self
  | patch =>
    rw [hincrement] at h
    cases h
    decide
  | none =>
    rw [hincrement] at h
    cases h
    decide

/-- How the reasons for a suffix begin. -/
theorem BuildContext.take_scenarioReason (context : BuildContext) (scenario : Scenario) :
    (context.scenarioReason scenario).take 2 ∈
      ["Pu".toList, "No".toList, "Re".toList, "Ma".toList] := by
  cases scenario with
  | pullRequest => exact List.mem_cons_self
  | otherBranch => exact List.mem_cons_of_mem _ List.mem_cons_self
  | release => exact List.mem_cons_of_mem _ (List.mem_cons_of_mem _ List.mem_cons_self)
  | mainBuild =>
    show "Ma".toList ∈ ["Pu".toList, "No".toList, "Re".toList, "Ma".toList]
    decide

/-- The reason for an increment is never the reason for a suffix. -/
theorem Counts.reason_ne_scenarioReason {counts : Counts} {reason : Text}
    (h : counts.reason = .ok reason) (context : BuildContext) (scenario : Scenario) :
    reason ≠ context.scenarioReason scenario := by
  intro hsame
  have hfirst := Counts.take_reason h
  have hsecond := context.take_scenarioReason scenario
  rw [← hsame] at hsecond
  have hdisjoint : ∀ start ∈ ["Br".toList, "Fe".toList, "Pa".toList],
      start ∉ ["Pu".toList, "No".toList, "Re".toList, "Ma".toList] := by decide
  exact hdisjoint _ hfirst hsecond

/-! ## The marks -/

section

variable {request : Request} {resolution : Resolution}

theorem resolve_commits_eq_nil_iff (h : resolve request = .ok resolution) :
    resolution.commits = [] ↔ ∀ message ∈ request.messages, allBlank message = true := by
  rw [(resolve_commits h).1, ← not_iff_not, ← ne_eq, Request.commits_ne_nil_iff]
  simp

theorem resolve_total_eq_zero_iff (h : resolve request = .ok resolution) :
    resolution.counts.total = 0 ↔ ∀ message ∈ request.messages, allBlank message = true := by
  rw [resolve_counts h, Counts.total_ofCommits, List.length_eq_zero_iff,
    resolve_commits_eq_nil_iff h]

/-- The version to publish begins with the base version. -/
theorem resolve_text_prefix (h : resolve request = .ok resolution) :
    resolution.baseVersion.text <+: resolution.finalVersion := by
  by_cases hcommit : ∃ message ∈ request.messages, allBlank message = false
  · rw [(resolve_finalVersion h hcommit).2]
    exact List.prefix_append _ _
  · have hsame : resolution.finalVersion = resolution.baseVersion.text :=
      resolve_finalVersion_of_blank h (by simpa using hcommit)
    exact ⟨[], (List.append_nil _).trans hsame.symm⟩

/-- The version to publish is the written previous version only if nothing changed. -/
theorem resolve_finalVersion_eq_iff (h : resolve request = .ok resolution) :
    resolution.previousVersion.write = .ok resolution.finalVersion ↔
      ∀ message ∈ request.messages, allBlank message = true := by
  have hwritable := (resolve_isWritable h).1
  constructor
  · intro hwrite
    by_contra hnot
    have hcommit : ∃ message ∈ request.messages, allBlank message = false := by simpa using hnot
    -- No suffix begins with a digit, so the two versions end at the same place.
    have htext : resolution.baseVersion.text ++ request.context.suffixText =
        resolution.previousVersion.text ++ [] := by
      rw [List.append_nil, ← (resolve_finalVersion h hcommit).2]
      exact (Version.write_eq_ok_iff.mp hwrite).2
    obtain ⟨hbase, _⟩ := Version.text_append_inj request.context.head?_suffixText rfl htext
    exact hnot ((resolve_baseVersion_eq_iff h).mp hbase)
  · intro hblank
    rw [resolve_finalVersion_of_blank h hblank, (resolve_baseVersion_eq_iff h).mpr hblank]
    exact Version.write_eq_ok_iff.mpr ⟨hwritable, rfl⟩

/-- Version and suffix have one reason only if nothing changed. -/
theorem resolve_reason_eq_iff (h : resolve request = .ok resolution) :
    resolution.versionReason = resolution.suffixReason ↔
      ∀ message ∈ request.messages, allBlank message = true := by
  rw [← resolve_commits_eq_nil_iff h, (resolve_commits h).1]
  obtain ⟨_, _, _, hanswer⟩ := resolve_eq_ok_iff.mp h
  cases hanswer with
  | inl hunchanged =>
    obtain ⟨hnone, _, rfl⟩ := hunchanged
    exact iff_of_true rfl hnone
  | inr hchanged =>
    obtain ⟨hsome, _, reason, hreason, rfl⟩ := hchanged
    exact iff_of_false (Counts.reason_ne_scenarioReason hreason _ _) hsome

/-- A summary has one line for the reason if nothing changed, and else one for each of the two. -/
theorem reasonLines_of_resolve (h : resolve request = .ok resolution) :
    ((∀ message ∈ request.messages, allBlank message = true) →
      Report.reasonLines resolution = ["💡 **Reason:** ".toList ++ resolution.versionReason]) ∧
    (¬(∀ message ∈ request.messages, allBlank message = true) →
      Report.reasonLines resolution = [
        "💡 **Version increment:** ".toList ++ resolution.versionReason,
        "💡 **Suffix applied:** ".toList ++ resolution.suffixReason]) := by
  rw [← resolve_reason_eq_iff h]
  exact ⟨fun hsame => if_pos hsame, fun hother => if_neg hother⟩

/--
All marks of an unchanged resolution agree. An answer has no commits, counts none, has the weakest
increment, keeps the previous version as its base version, publishes it as it is written, and gives
version and suffix the same reason: each of these holds exactly if every message is blank. Then the
summary has one line for the reason, and otherwise two. Otherwise, too, the base version is greater
than the previous one, the version to publish begins with it, and the reasons differ, whatever the
build calls its branch or its pull request.
-/
theorem resolve_unchanged_iff (h : resolve request = .ok resolution) :
    let unchanged := ∀ message ∈ request.messages, allBlank message = true
    (resolution.commits = [] ↔ unchanged) ∧
      (resolution.counts.total = 0 ↔ unchanged) ∧
      (resolution.increment = .none ↔ unchanged) ∧
      (resolution.baseVersion = resolution.previousVersion ↔ unchanged) ∧
      (resolution.previousVersion.write = .ok resolution.finalVersion ↔ unchanged) ∧
      (resolution.versionReason = resolution.suffixReason ↔ unchanged) ∧
      (∀ document, Report.markdown resolution = .ok document → ∃ reasons,
        document = joinLines (Report.headLines ++ (Report.allFacts resolution).map Report.row ++
          [] :: reasons ++ resolution.advisories.map ("⚠️ ".toList ++ ·)) ++ ['\n'] ∧
        (unchanged → reasons = ["💡 **Reason:** ".toList ++ resolution.versionReason]) ∧
        (¬unchanged → reasons = [
          "💡 **Version increment:** ".toList ++ resolution.versionReason,
          "💡 **Suffix applied:** ".toList ++ resolution.suffixReason])) ∧
      (¬unchanged →
        resolution.previousVersion < resolution.baseVersion ∧
        (∃ base, resolution.baseVersion.write = .ok base ∧ base <+: resolution.finalVersion) ∧
        resolution.versionReason ≠ resolution.suffixReason) := by
  intro unchanged
  obtain ⟨hprevious, hbase⟩ := resolve_isWritable h
  refine ⟨resolve_commits_eq_nil_iff h, resolve_total_eq_zero_iff h,
    resolve_increment_eq_none_iff h, resolve_baseVersion_eq_iff h, resolve_finalVersion_eq_iff h,
    resolve_reason_eq_iff h, ?_, ?_⟩
  · intro document hdocument
    obtain ⟨_, hlines⟩ := (Report.markdown_eq_ok_iff hprevious hbase).mp hdocument
    exact ⟨_, hlines, reasonLines_of_resolve h⟩
  · intro hchanged
    refine ⟨?_, ?_, ?_⟩
    · have hne : resolution.baseVersion ≠ resolution.previousVersion :=
        mt (resolve_baseVersion_eq_iff h).mp hchanged
      exact lt_of_le_of_ne (resolve_previousVersion_le h) hne.symm
    · exact ⟨_, Version.write_eq_ok_iff.mpr ⟨hbase, rfl⟩, resolve_text_prefix h⟩
    · exact mt (resolve_reason_eq_iff h).mp hchanged

end

/-- A build of a branch that is named like a reason, after `v1.4.2`. -/
def reasonBranch (messages : List Text) : Request where
  lastTag := some "v1.4.2".toList
  messages := messages
  context :=
    { currentBranch := "Patch increment (only fixes/docs/chore commits)".toList,
      defaultBranch := ['d'], shortRevision := ".0".toList }

theorem reasonBranch_unchanged_iff :
    (∃ resolution, resolve (reasonBranch [" \n".toList]) = .ok resolution ∧
      resolution.finalVersion = "1.4.2".toList ∧ resolution.increment = .none ∧
      resolution.versionReason = resolution.suffixReason) ∧
    ∃ resolution, resolve (reasonBranch [" \n".toList, "fix: a".toList]) = .ok resolution ∧
      resolution.finalVersion = "1.4.3-br+.0".toList ∧
      resolution.previousVersion < resolution.baseVersion ∧
      resolution.versionReason ≠ resolution.suffixReason := by
  constructor
  · obtain ⟨resolution, hresolve, hversion⟩ : ∃ resolution,
        resolve (reasonBranch [" \n".toList]) = .ok resolution ∧
          resolution.finalVersion = "1.4.2".toList := ⟨_, rfl, rfl⟩
    have hblank : ∀ message ∈ (reasonBranch [" \n".toList]).messages,
        allBlank message = true := by decide
    obtain ⟨_, _, hincrement, _, _, hreason, _⟩ := resolve_unchanged_iff hresolve
    exact ⟨resolution, hresolve, hversion, hincrement.mpr hblank, hreason.mpr hblank⟩
  · obtain ⟨resolution, hresolve, hversion⟩ : ∃ resolution,
        resolve (reasonBranch [" \n".toList, "fix: a".toList]) = .ok resolution ∧
          resolution.finalVersion = "1.4.3-br+.0".toList := ⟨_, rfl, rfl⟩
    have hchanged : ¬∀ message ∈ (reasonBranch [" \n".toList, "fix: a".toList]).messages,
        allBlank message = true := by decide
    obtain ⟨_, _, _, _, _, _, _, hmore⟩ := resolve_unchanged_iff hresolve
    obtain ⟨hlt, _, hreason⟩ := hmore hchanged
    exact ⟨resolution, hresolve, hversion, hlt, hreason⟩

end NextRelease
