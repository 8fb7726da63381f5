import NextRelease.Build.Environment
import NextRelease.Proofs.Build.Suffix

/-!
# Scenarios of environments

The scenario of a build is decided by four variables of its environment: the two flags, the branch
that is built and the default branch. A branch that is not named is the default one, and a default
branch that the environment does not name is that of the settings.
-/

namespace NextRelease

open Text

/-! ## Scenarios of contexts -/

namespace BuildContext

variable {context : BuildContext}

theorem scenario_eq_otherBranch_iff :
    context.scenario = .otherBranch ↔
      context.isPullRequest = false ∧ context.currentBranch ≠ context.defaultBranch := by
  unfold scenario
  split_ifs <;> simp [*]

theorem scenario_eq_release_iff :
    context.scenario = .release ↔
      context.isPullRequest = false ∧ context.currentBranch = context.defaultBranch ∧
        context.isReleaseRequested = true := by
  unfold scenario
  split_ifs <;> simp_all

theorem scenario_eq_mainBuild_iff :
    context.scenario = .mainBuild ↔
      context.isPullRequest = false ∧ context.currentBranch = context.defaultBranch ∧
        context.isReleaseRequested = false := by
  unfold scenario
  split_ifs <;> simp_all

end BuildContext

/-! ## What an environment says -/

namespace Environment

/-- The variable is one of the words that set a flag, in any case and perhaps between blanks. -/
def Sets (environment : Environment) (name : String) : Prop :=
  lowerCase (environment.value name) ∈ truthyWords

instance (environment : Environment) (name : String) : Decidable (environment.Sets name) :=
  inferInstanceAs (Decidable (_ ∈ _))

/-- The default branch: the one that the environment names, or else that of the settings. -/
def defaultBranch (environment : Environment) (settings : Settings) : Text :=
  environment.valueOr "DEFAULT_BRANCH" settings.defaultBranch

/-- The build is of the default branch: the environment names no other one. -/
def OnDefaultBranch (environment : Environment) (settings : Settings) : Prop :=
  environment.value "CURRENT_BRANCH" = [] ∨
    environment.value "CURRENT_BRANCH" = environment.defaultBranch settings

variable {environment : Environment} {settings : Settings} {context : BuildContext}

theorem flag_eq_true_iff {name : String} : environment.flag name = true ↔ environment.Sets name :=
  List.contains_iff_mem

/-- What the scenario of a context hangs on, in the environment that it is made of. -/
theorem buildContext_eq_ok (h : environment.buildContext settings = .ok context) :
    context.isPullRequest = environment.flag "IS_PULL_REQUEST" ∧
      context.isReleaseRequested = environment.flag "IS_RELEASE" ∧
      (context.currentBranch = context.defaultBranch ↔ environment.OnDefaultBranch settings) := by
  simp only [buildContext, bind_eq_ok_iff, pure_eq_ok_iff] at h
  obtain ⟨_, _, rfl⟩ := h
  refine ⟨rfl, rfl, ?_⟩
  unfold OnDefaultBranch defaultBranch
  rw [valueOr]
  by_cases hcurrent : environment.value "CURRENT_BRANCH" = []
  · simp [hcurrent]
  · simp [hcurrent]

section

variable (h : environment.buildContext settings = .ok context)
include h

theorem shortRevision_eq : context.shortRevision = environment.value "SHORT_SHA" := by
  simp only [buildContext, bind_eq_ok_iff, pure_eq_ok_iff] at h
  obtain ⟨_, _, rfl⟩ := h
  rfl

theorem scenario_eq_pullRequest_iff :
    context.scenario = .pullRequest ↔ environment.Sets "IS_PULL_REQUEST" := by
  rw [BuildContext.scenario_eq_pullRequest_iff, (buildContext_eq_ok h).1, flag_eq_true_iff]

theorem scenario_eq_otherBranch_iff :
    context.scenario = .otherBranch ↔
      ¬environment.Sets "IS_PULL_REQUEST" ∧ ¬environment.OnDefaultBranch settings := by
  obtain ⟨hpull, _, hbranch⟩ := buildContext_eq_ok h
  rw [BuildContext.scenario_eq_otherBranch_iff, hpull, ← Bool.not_eq_true, flag_eq_true_iff,
    ne_eq, hbranch]

theorem scenario_eq_release_iff :
    context.scenario = .release ↔
      ¬environment.Sets "IS_PULL_REQUEST" ∧ environment.OnDefaultBranch settings ∧
        environment.Sets "IS_RELEASE" := by
  obtain ⟨hpull, hrelease, hbranch⟩ := buildContext_eq_ok h
  rw [BuildContext.scenario_eq_release_iff, hpull, hrelease, ← Bool.not_eq_true, flag_eq_true_iff,
    flag_eq_true_iff, hbranch]

theorem scenario_eq_mainBuild_iff :
    context.scenario = .mainBuild ↔
      ¬environment.Sets "IS_PULL_REQUEST" ∧ environment.OnDefaultBranch settings ∧
        ¬environment.Sets "IS_RELEASE" := by
  obtain ⟨hpull, hrelease, hbranch⟩ := buildContext_eq_ok h
  rw [BuildContext.scenario_eq_mainBuild_iff, hpull, hrelease, ← Bool.not_eq_true,
    ← Bool.not_eq_true, flag_eq_true_iff, flag_eq_true_iff, hbranch]

end

end Environment

end NextRelease
