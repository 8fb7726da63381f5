import NextRelease.Proofs.Build.Environment
import NextRelease.Proofs.Settings.Table

/-!
# Builds of the configured default branch

Settings keep the default branch as their table spells it, while the branch that is built is trimmed
when it is read from an environment. A build of the configured branch is therefore taken for one of
the default branch only if the table spells it without blanks at its edges. With such blanks even a
requested release of the default branch counts as a build of another branch.
-/

namespace NextRelease

open Text

namespace Environment

variable {environment : Environment} {settings : Settings} {context : BuildContext}

/-- A count that was read has few enough digits to be written. -/
theorem commitCount_lt {count : Nat} (h : environment.commitCount = .ok count) :
    count < 10 ^ numeralLimit := by
  simp only [commitCount] at h
  split at h
  · obtain ⟨hlength, rfl⟩ := readNumber_eq_ok_iff.mp h
    exact digitsValue_lt_of_length_le hlength
  · cases h

/-- Only a pull request without an identifier keeps a context of an environment from a suffix. -/
theorem allowsSuffix_iff (h : environment.buildContext settings = .ok context) :
    context.AllowsSuffix ↔ ¬context.LacksId := by
  rw [BuildContext.allowsSuffix_iff, and_iff_left_iff_imp]
  rintro - ⟨_, hcount⟩
  simp only [buildContext, bind_eq_ok_iff, pure_eq_ok_iff] at h
  obtain ⟨count, hread, rfl⟩ := h
  exact absurd (commitCount_lt hread) (Nat.not_lt.mpr hcount)

/-- A branch that is built is the default one if its trimmed name is the one of the settings. -/
theorem onDefaultBranch_iff {branch : Text} (hdefault : environment.value "DEFAULT_BRANCH" = [])
    (hcurrent : environment.lookup "CURRENT_BRANCH".toList = some branch)
    (hbranch : allBlank branch = false) :
    environment.OnDefaultBranch settings ↔ trim branch = settings.defaultBranch := by
  have hvalue : environment.value "CURRENT_BRANCH" = trim branch := by
    rw [value, hcurrent]
    rfl
  have hne : trim branch ≠ [] := by
    rw [ne_eq, trim_eq_nil_iff, hbranch]
    decide
  rw [OnDefaultBranch, hvalue, or_iff_right hne, defaultBranch, valueOr, hdefault, if_pos rfl]

/--
A build of the configured default branch is recognised exactly if the table of the settings spells
the branch without blanks at its edges. Where the environment names no default branch, tells of no
pull request and names the branch that is built as the table does, the scenario is then a release if
one is asked for, and else a main build; with blanks at the edges it is a build of another branch.
In each case there is a suffix.
-/
theorem scenario_of_configuredBranch {entries : List (Text × Value)} {branch : Text}
    (hsettings : Settings.ofTable entries = .ok settings)
    (hentry : entry? "default_branch".toList entries = some (.text branch))
    (hdefault : environment.value "DEFAULT_BRANCH" = [])
    (hpull : ¬environment.Sets "IS_PULL_REQUEST")
    (hcurrent : environment.lookup "CURRENT_BRANCH".toList = some branch)
    (hcontext : environment.buildContext settings = .ok context) :
    (context.currentBranch = context.defaultBranch ↔ trim branch = branch) ∧
      (trim branch = branch → context.scenario =
        if environment.Sets "IS_RELEASE" then .release else .mainBuild) ∧
      (trim branch ≠ branch → context.scenario = .otherBranch) ∧
      ∃ suffix, context.suffix = .ok suffix := by
  obtain ⟨hbranch, hblank⟩ := Settings.defaultBranch_of_ofTable hsettings hentry
  have hon : environment.OnDefaultBranch settings ↔ trim branch = branch := by
    rw [onDefaultBranch_iff hdefault hcurrent hblank, hbranch]
  refine ⟨(buildContext_eq_ok hcontext).2.2.trans hon, fun htrim => ?_, fun htrim => ?_, ?_⟩
  · split
    · next hrelease =>
      exact (scenario_eq_release_iff hcontext).mpr ⟨hpull, hon.mpr htrim, hrelease⟩
    · next hrelease =>
      exact (scenario_eq_mainBuild_iff hcontext).mpr ⟨hpull, hon.mpr htrim, hrelease⟩
  · exact (scenario_eq_otherBranch_iff hcontext).mpr ⟨hpull, mt hon.mp htrim⟩
  · refine ⟨_, BuildContext.suffix_eq_ok_iff.mpr ⟨(allowsSuffix_iff hcontext).mpr ?_, rfl⟩⟩
    rintro ⟨hpullRequest, _⟩
    rw [← BuildContext.scenario_eq_pullRequest_iff] at hpullRequest
    exact hpull ((scenario_eq_pullRequest_iff hcontext).mp hpullRequest)

/-- A table that names the default branch, and nothing else. -/
def branchTable (branch : String) : List (Text × Value) :=
  [("default_branch".toList, .text branch.toList)]

/-- An environment that asks for a release of a branch. -/
def releaseOf (branch : String) : Environment :=
  [("CURRENT_BRANCH".toList, branch.toList), ("IS_RELEASE".toList, "true".toList)]

theorem scenario_of_trunk : ∃ settings context,
    Settings.ofTable (branchTable "trunk") = .ok settings ∧
      (releaseOf "trunk").value "DEFAULT_BRANCH" = [] ∧
      ¬(releaseOf "trunk").Sets "IS_PULL_REQUEST" ∧
      (releaseOf "trunk").buildContext settings = .ok context ∧
      context.currentBranch = context.defaultBranch ∧ context.scenario = .release := by
  obtain ⟨settings, context, hsettings, hcontext⟩ : ∃ settings context,
      Settings.ofTable (branchTable "trunk") = .ok settings ∧
        (releaseOf "trunk").buildContext settings = .ok context := ⟨_, _, rfl, rfl⟩
  have hdefault : (releaseOf "trunk").value "DEFAULT_BRANCH" = [] := by rfl
  have hpull : ¬(releaseOf "trunk").Sets "IS_PULL_REQUEST" := by decide
  have htrim : trim "trunk".toList = "trunk".toList := by decide
  obtain ⟨hbranch, hscenario, _⟩ :=
    scenario_of_configuredBranch hsettings rfl hdefault hpull rfl hcontext
  refine ⟨settings, context, hsettings, hdefault, hpull, hcontext, hbranch.mpr htrim, ?_⟩
  rw [hscenario htrim, if_pos (by decide)]

/-- A requested release of the configured branch counts as a build of another branch. -/
theorem blankBranch_not_default : ∃ settings context,
    Settings.ofTable (branchTable " main ") = .ok settings ∧
      (releaseOf " main ").buildContext settings = .ok context ∧
      context.currentBranch = "main".toList ∧ context.defaultBranch = " main ".toList ∧
      context.scenario = .otherBranch :=
  ⟨_, _, rfl, rfl, rfl, rfl, rfl⟩

end Environment

end NextRelease
