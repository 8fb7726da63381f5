import NextRelease.Proofs.Build.Environment
import NextRelease.Proofs.Resolution.Append

/-!
# What a version tells of its build

The version to publish is a base version and the suffix of the build. Neither hides the other: the
base version ends where the suffix begins, for no suffix begins with a digit, and how the suffix
begins tells the scenario. So no two builds that differ in their scenario, or in what the suffix
holds for it, share a version, and only a release is published under the bare base version.
-/

namespace NextRelease

open Text

/-! ## Builds with one version -/

/--
No two different builds share a version. Two resolutions with commits, under whatever tags, settings
and contexts, that answer the same version have the same base version and scenario. Main builds
have the same count of commits and the same revision, builds of other branches the same revision,
and pull requests whose trimmed identifiers hold no plus sign the same identifier and revision.
-/
theorem resolve_finalVersion_inj {first second : Request} {one other : Resolution}
    (hone : resolve first = .ok one) (hother : resolve second = .ok other)
    (hfirst : ∃ message ∈ first.messages, allBlank message = false)
    (hsecond : ∃ message ∈ second.messages, allBlank message = false)
    (h : one.finalVersion = other.finalVersion) :
    let id (request : Request) := trim (request.context.pullRequestId.getD [])
    let revision (request : Request) := request.context.shortRevision
    one.baseVersion = other.baseVersion ∧ one.scenario = other.scenario ∧
      (one.scenario = .mainBuild →
        first.context.commitCount = second.context.commitCount ∧
          revision first = revision second) ∧
      (one.scenario = .otherBranch → revision first = revision second) ∧
      (one.scenario = .pullRequest → '+' ∉ id first → '+' ∉ id second →
        id first = id second ∧ revision first = revision second) := by
  intro id revision
  rw [(resolve_finalVersion hone hfirst).2, (resolve_finalVersion hother hsecond).2] at h
  obtain ⟨hbase, hsuffix⟩ := Version.text_append_inj first.context.head?_suffixText
    second.context.head?_suffixText h
  rw [resolve_scenario hone, resolve_scenario hother]
  exact ⟨hbase, BuildContext.scenario_eq_of_suffixText_eq hsuffix,
    BuildContext.count_eq_of_suffixText_eq hsuffix,
    BuildContext.revision_eq_of_suffixText_eq hsuffix,
    BuildContext.id_eq_of_suffixText_eq hsuffix⟩

/-- A pull request of one feature after a tag, with an identifier and a revision. -/
def pullRequestAfter (tag id revision : String) : Request where
  lastTag := some tag.toList
  messages := ["feat: a".toList]
  context :=
    { currentBranch := ['b'], defaultBranch := ['d'], shortRevision := revision.toList,
      isPullRequest := true, pullRequestId := some id.toList }

theorem pullRequestAfter_finalVersion_inj :
    ∃ one other,
      resolve (pullRequestAfter "v1.4.2" " 7\n" "ab+c") = .ok one ∧
      resolve (pullRequestAfter "1.4.9-rc1" "7" "ab+c") = .ok other ∧
      one.finalVersion = "1.5.0-pr7+ab+c".toList ∧ one.finalVersion = other.finalVersion ∧
      one.baseVersion = other.baseVersion ∧ trim " 7\n".toList = trim "7".toList := by
  obtain ⟨one, hone, hversion, hscenario⟩ : ∃ one,
      resolve (pullRequestAfter "v1.4.2" " 7\n" "ab+c") = .ok one ∧
        one.finalVersion = "1.5.0-pr7+ab+c".toList ∧ one.scenario = .pullRequest :=
    ⟨_, rfl, rfl, rfl⟩
  obtain ⟨other, hother, hversion'⟩ : ∃ other,
      resolve (pullRequestAfter "1.4.9-rc1" "7" "ab+c") = .ok other ∧
        other.finalVersion = "1.5.0-pr7+ab+c".toList := ⟨_, rfl, rfl⟩
  have hsame : one.finalVersion = other.finalVersion := hversion.trans hversion'.symm
  have hcommit : ∀ tag id revision,
      ∃ message ∈ (pullRequestAfter tag id revision).messages, allBlank message = false :=
    fun _ _ _ => ⟨"feat: a".toList, List.mem_singleton_self _, by decide⟩
  obtain ⟨hbase, _, _, _, hpull⟩ :=
    resolve_finalVersion_inj hone hother (hcommit _ _ _) (hcommit _ _ _) hsame
  exact ⟨one, other, hone, hother, hversion, hsame, hbase,
    (hpull hscenario (by decide) (by decide)).1⟩

/-! ## The bare version -/

/--
Only a release is published under the bare base version. Whatever the environment that a context is
made of, the version to publish of a resolution with commits is the base version alone exactly if
the environment asks for a release and neither tells of a pull request nor names a branch other than
the default one. In every other case a suffix follows, whose beginning tells which of these holds,
in this order; and the base version is always greater than the previous one.
-/
theorem resolve_bare_iff {environment : Environment} {request : Request} {resolution : Resolution}
    (hcontext : environment.buildContext request.settings = .ok request.context)
    (hresolve : resolve request = .ok resolution)
    (hcommit : ∃ message ∈ request.messages, allBlank message = false) :
    let isPullRequest := environment.Sets "IS_PULL_REQUEST"
    let onDefaultBranch := environment.OnDefaultBranch request.settings
    let isRelease := environment.Sets "IS_RELEASE"
    ∃ base, resolution.baseVersion.write = .ok base ∧
      (resolution.finalVersion = base ↔ ¬isPullRequest ∧ onDefaultBranch ∧ isRelease) ∧
      (isPullRequest → base ++ "-pr".toList <+: resolution.finalVersion) ∧
      (¬isPullRequest ∧ ¬onDefaultBranch → base ++ "-br".toList <+: resolution.finalVersion) ∧
      (¬isPullRequest ∧ onDefaultBranch ∧ ¬isRelease →
        base ++ "-rc".toList <+: resolution.finalVersion) ∧
      resolution.previousVersion < resolution.baseVersion := by
  intro isPullRequest onDefaultBranch isRelease
  obtain ⟨hwritable, hversion⟩ := resolve_finalVersion hresolve hcommit
  have hmark : resolution.baseVersion.text ++ request.context.scenario.mark <+:
      resolution.finalVersion := by
    rw [hversion, List.prefix_append_right_inj]
    exact request.context.mark_prefix_suffixText
  refine ⟨_, Version.write_eq_ok_iff.mpr ⟨hwritable, rfl⟩, ?_, ?_, ?_, ?_, ?_⟩
  · rw [hversion, List.append_right_eq_self, BuildContext.suffixText_eq_nil_iff]
    exact Environment.scenario_eq_release_iff hcontext
  · intro hpull
    rwa [(Environment.scenario_eq_pullRequest_iff hcontext).mpr hpull] at hmark
  · intro hbranch
    rwa [(Environment.scenario_eq_otherBranch_iff hcontext).mpr hbranch] at hmark
  · intro hmain
    rwa [(Environment.scenario_eq_mainBuild_iff hcontext).mpr hmain] at hmark
  · refine lt_of_le_of_ne (resolve_previousVersion_le hresolve) fun hsame => ?_
    obtain ⟨message, hmem, hmessage⟩ := hcommit
    rw [(resolve_baseVersion_eq_iff hresolve).mp hsame.symm message hmem] at hmessage
    cases hmessage

/-- An environment that asks for a release of the trunk, perhaps of a pull request. -/
def releaseAsked (pullRequest : String) : Environment := [
  ("IS_PULL_REQUEST".toList, pullRequest.toList), ("PR_NUMBER".toList, ['7']),
  ("CURRENT_BRANCH".toList, " trunk ".toList), ("DEFAULT_BRANCH".toList, " \n".toList),
  ("IS_RELEASE".toList, " Yes".toList)]

/-- A feature under settings with the trunk as the default branch, in such an environment. -/
def trunkFeature (isPullRequest : Bool) : Request where
  lastTag := some "v1.4.2".toList
  messages := ["feat: a".toList]
  context :=
    { currentBranch := "trunk".toList, defaultBranch := "trunk".toList, shortRevision := [],
      isPullRequest, pullRequestId := some ['7'], isReleaseRequested := true }
  settings := { defaultBranch := "trunk".toList }

theorem trunkFeature_bare_iff :
    (releaseAsked "no").buildContext (trunkFeature false).settings =
        .ok (trunkFeature false).context ∧
      (∃ resolution, resolve (trunkFeature false) = .ok resolution ∧
        resolution.baseVersion.write = .ok resolution.finalVersion) ∧
      (releaseAsked "TRUE").buildContext (trunkFeature true).settings =
        .ok (trunkFeature true).context ∧
      ∃ resolution, resolve (trunkFeature true) = .ok resolution ∧
        resolution.baseVersion.write ≠ .ok resolution.finalVersion := by
  have hcommit : ∀ isPullRequest,
      ∃ message ∈ (trunkFeature isPullRequest).messages, allBlank message = false :=
    fun _ => ⟨"feat: a".toList, List.mem_singleton_self _, by decide⟩
  have hrelease : (releaseAsked "no").buildContext (trunkFeature false).settings =
      .ok (trunkFeature false).context := by rfl
  have hpull : (releaseAsked "TRUE").buildContext (trunkFeature true).settings =
      .ok (trunkFeature true).context := by rfl
  refine ⟨hrelease, ?_, hpull, ?_⟩
  · obtain ⟨resolution, hresolve⟩ : ∃ resolution,
        resolve (trunkFeature false) = .ok resolution := ⟨_, rfl⟩
    obtain ⟨base, hbase, hbare, _⟩ := resolve_bare_iff hrelease hresolve (hcommit false)
    refine ⟨resolution, hresolve, ?_⟩
    rw [hbase, hbare.mpr ⟨by decide, .inr (by decide), by decide⟩]
  · obtain ⟨resolution, hresolve⟩ : ∃ resolution,
        resolve (trunkFeature true) = .ok resolution := ⟨_, rfl⟩
    obtain ⟨base, hbase, hbare, _⟩ := resolve_bare_iff hpull hresolve (hcommit true)
    refine ⟨resolution, hresolve, ?_⟩
    rw [hbase]
    exact fun hequal => (hbare.mp (Except.ok.inj hequal).symm).1 (by decide)

end NextRelease
