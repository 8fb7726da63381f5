import NextRelease.Build.Context
import NextRelease.Proofs.Failure
import NextRelease.Proofs.Text.Trim

/-!
# The suffix of a build

In every scenario the suffix is one text. It fails to be written only for a pull request whose
identifier is blank and for a count of commits with too many digits.
-/

namespace NextRelease

open Text

namespace BuildContext

/-- The suffix of a build, in full. -/
def suffixText (context : BuildContext) : Text :=
  match context.scenario with
  | .pullRequest =>
    "-pr".toList ++ trim (context.pullRequestId.getD []) ++ '+' :: context.shortRevision
  | .otherBranch => "-br+".toList ++ context.shortRevision
  | .release => []
  | .mainBuild => "-rc".toList ++ decimal context.commitCount ++ '+' :: context.shortRevision

/-- What the scenario of a build needs for its suffix is there. -/
def AllowsSuffix (context : BuildContext) : Prop :=
  match context.scenario with
  | .pullRequest => trim (context.pullRequestId.getD []) ≠ []
  | .mainBuild => context.commitCount < 10 ^ numeralLimit
  | _ => True

theorem suffix_eq_ok_iff {context : BuildContext} {suffix : Text} :
    context.suffix = .ok suffix ↔ context.AllowsSuffix ∧ suffix = context.suffixText := by
  unfold BuildContext.suffix AllowsSuffix suffixText
  cases context.scenario with
  | pullRequest =>
    by_cases hid : trim (context.pullRequestId.getD []) = []
    · simp [trimmedId?, hid]
    · simp [trimmedId?, hid, eq_comm]
  | otherBranch => simp [eq_comm]
  | release => simp [eq_comm]
  | mainBuild =>
    simp only [bind_eq_ok_iff, pure_eq_ok_iff, writeNumber_eq_ok_iff]
    constructor
    · rintro ⟨count, ⟨hcount, rfl⟩, rfl⟩
      exact ⟨hcount, rfl⟩
    · rintro ⟨hcount, rfl⟩
      exact ⟨_, ⟨hcount, rfl⟩, rfl⟩

/-- A pull request whose identifier is missing or blank. -/
def LacksId (context : BuildContext) : Prop :=
  context.isPullRequest = true ∧ context.pullRequestId.all allBlank = true

/-- A main build with more commits since the last tag than can be written. -/
def CountTooLong (context : BuildContext) : Prop :=
  context.scenario = .mainBuild ∧ 10 ^ numeralLimit ≤ context.commitCount

theorem scenario_eq_pullRequest_iff {context : BuildContext} :
    context.scenario = .pullRequest ↔ context.isPullRequest = true := by
  unfold BuildContext.scenario
  split_ifs <;> simp [*]

theorem trim_pullRequestId_eq_nil_iff {context : BuildContext} :
    trim (context.pullRequestId.getD []) = [] ↔ context.pullRequestId.all allBlank = true := by
  rw [trim_eq_nil_iff]
  cases context.pullRequestId with
  | none => simp [allBlank]
  | some id => rfl

theorem allowsSuffix_iff {context : BuildContext} :
    context.AllowsSuffix ↔ ¬context.LacksId ∧ ¬context.CountTooLong := by
  unfold AllowsSuffix LacksId CountTooLong
  rw [← scenario_eq_pullRequest_iff, ← trim_pullRequestId_eq_nil_iff]
  cases context.scenario <;> simp

/-- The two reasons exclude each other. -/
theorem CountTooLong.not_lacksId {context : BuildContext} (h : context.CountTooLong) :
    ¬context.LacksId := by
  rintro ⟨hpull, _⟩
  have hscenario := scenario_eq_pullRequest_iff.mpr hpull
  rw [h.1] at hscenario
  cases hscenario

/-- The suffix fails to be written for two reasons. -/
theorem suffix_eq_error_iff {context : BuildContext} {failure : Failure} :
    context.suffix = .error failure ↔
      context.LacksId ∧ failure = .missingPullRequestId ∨
        context.CountTooLong ∧ failure = .numberTooLong := by
  unfold BuildContext.suffix LacksId CountTooLong
  rw [← scenario_eq_pullRequest_iff, ← trim_pullRequestId_eq_nil_iff]
  cases context.scenario with
  | pullRequest =>
    by_cases hid : trim (context.pullRequestId.getD []) = []
    · simp [trimmedId?, hid, eq_comm]
    · simp [trimmedId?, hid]
  | otherBranch => simp
  | release => simp
  | mainBuild =>
    simp only [bind_eq_error_iff, writeNumber_eq_error_iff, pure_ne_error]
    simp

/-- Only the revision and the identifier of a pull request can bring a newline into the suffix. -/
theorem newline_mem_suffixText {context : BuildContext} :
    '\n' ∈ context.suffixText ↔ context.scenario ≠ .release ∧
      ('\n' ∈ context.shortRevision ∨
        context.scenario = .pullRequest ∧ '\n' ∈ trim (context.pullRequestId.getD [])) := by
  unfold suffixText
  cases context.scenario with
  | pullRequest => simp [or_comm]
  | otherBranch => simp
  | release => simp
  | mainBuild => simp [notMem_decimal]

/-! ## What a suffix tells of its build -/

end BuildContext

/-- How the suffix begins in a scenario. -/
def Scenario.mark : Scenario → Text
  | .pullRequest => "-pr".toList
  | .otherBranch => "-br".toList
  | .release => []
  | .mainBuild => "-rc".toList

theorem Scenario.mark_injective : Function.Injective Scenario.mark := by
  intro first second h
  cases first <;> cases second <;> simp [mark] at h ⊢

namespace BuildContext

theorem take_suffixText (context : BuildContext) :
    context.suffixText.take 3 = context.scenario.mark := by
  unfold suffixText
  cases context.scenario with
  | pullRequest => rfl
  | otherBranch => rfl
  | release => rfl
  | mainBuild => rfl

theorem mark_prefix_suffixText (context : BuildContext) :
    context.scenario.mark <+: context.suffixText := by
  rw [← take_suffixText]
  exact List.take_prefix 3 _

/-- Only a release has no suffix. -/
theorem suffixText_eq_nil_iff {context : BuildContext} :
    context.suffixText = [] ↔ context.scenario = .release := by
  constructor
  · intro hnil
    have htake := context.take_suffixText
    rw [hnil] at htake
    exact Scenario.mark_injective htake.symm
  · intro hrelease
    rw [suffixText, hrelease]

theorem head?_suffixText (context : BuildContext) :
    context.suffixText.head?.all (!isDigit ·) = true := by
  unfold suffixText
  cases context.scenario with
  | pullRequest => rfl
  | otherBranch => rfl
  | release => rfl
  | mainBuild => rfl

/-- What stands between the hyphen and the plus sign of a suffix. -/
def stage (context : BuildContext) : Text :=
  match context.scenario with
  | .pullRequest => "pr".toList ++ trim (context.pullRequestId.getD [])
  | .otherBranch => "br".toList
  | .release => []
  | .mainBuild => "rc".toList ++ decimal context.commitCount

theorem suffixText_of_ne_release {context : BuildContext} (h : context.scenario ≠ .release) :
    context.suffixText = '-' :: context.stage ++ '+' :: context.shortRevision := by
  unfold suffixText stage
  cases hscenario : context.scenario with
  | release => exact absurd hscenario h
  | pullRequest => rfl
  | otherBranch => rfl
  | mainBuild => rfl

section

variable {first second : BuildContext} (h : first.suffixText = second.suffixText)
include h

theorem scenario_eq_of_suffixText_eq : first.scenario = second.scenario := by
  have htake := congrArg (List.take 3) h
  rw [take_suffixText, take_suffixText] at htake
  exact Scenario.mark_injective htake

/-- The count of a main build ends at the plus sign, which is no digit. -/
theorem count_eq_of_suffixText_eq (hscenario : first.scenario = .mainBuild) :
    first.commitCount = second.commitCount ∧ first.shortRevision = second.shortRevision := by
  have hother := hscenario.symm.trans (scenario_eq_of_suffixText_eq h)
  simp only [suffixText, hscenario, ← hother, List.append_assoc] at h
  obtain ⟨hcount, hrevision⟩ := append_mark_inj (notMem_decimal (by decide))
    (notMem_decimal (by decide)) (List.append_cancel_left h)
  exact ⟨decimal_injective hcount, hrevision⟩

theorem revision_eq_of_suffixText_eq (hscenario : first.scenario = .otherBranch) :
    first.shortRevision = second.shortRevision := by
  have hother := hscenario.symm.trans (scenario_eq_of_suffixText_eq h)
  simp only [suffixText, hscenario, ← hother] at h
  exact List.append_cancel_left h

/-- The identifier of a pull request ends at the plus sign, unless it holds one itself. -/
theorem id_eq_of_suffixText_eq (hscenario : first.scenario = .pullRequest)
    (hfirst : '+' ∉ trim (first.pullRequestId.getD []))
    (hsecond : '+' ∉ trim (second.pullRequestId.getD [])) :
    trim (first.pullRequestId.getD []) = trim (second.pullRequestId.getD []) ∧
      first.shortRevision = second.shortRevision := by
  have hother := hscenario.symm.trans (scenario_eq_of_suffixText_eq h)
  simp only [suffixText, hscenario, ← hother, List.append_assoc] at h
  exact append_mark_inj hfirst hsecond (List.append_cancel_left h)

/-- A plus sign in the identifier can be taken for the one before the revision. -/
example :
    let build (id revision : String) : BuildContext :=
      { currentBranch := ['b'], defaultBranch := ['d'], shortRevision := revision.toList,
        isPullRequest := true, pullRequestId := some id.toList }
    (build "7+a" "b").suffixText = (build "7" "a+b").suffixText := by decide

end

end BuildContext

end NextRelease
