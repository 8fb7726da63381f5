import NextRelease.Proofs.Resolution.FinalVersion
import NextRelease.Proofs.Version.Semantic

/-!
# When the version to publish is a semantic version

The base version always is one, whatever zeros or digits of other scripts the last tag had, so only
the suffix of a build can spoil it. The revision becomes the build of the semantic version and must
have its form, and the identifier of a pull request becomes the end of the pre-release. A build
without a revision, as an environment that does not name one gives it, has no form at all.
-/

namespace NextRelease

open Text Semantic

namespace BuildContext

/-- The stage of a main build is a letter more than its count of commits, so it is no number. -/
theorem isPreRelease_count (count : Nat) : isPreRelease ("rc".toList ++ decimal count) = true := by
  refine isPreRelease_cons (by decide) (by decide) (List.all_eq_true.mpr fun c hc => ?_)
  rcases List.mem_cons.mp hc with rfl | hdigit
  · decide
  · exact isIdentifierChar_of_isDigit (isDigit_of_mem_decimal hdigit)

/-- Only the identifier of a pull request can spoil the stage. -/
theorem isPreRelease_stage_iff {context : BuildContext} (h : context.scenario ≠ .release) :
    isPreRelease context.stage = true ↔ (context.scenario = .pullRequest →
      isPreRelease ("pr".toList ++ trim (context.pullRequestId.getD [])) = true) := by
  cases hscenario : context.scenario with
  | release => exact absurd hscenario h
  | pullRequest =>
    rw [stage, hscenario]
    exact ⟨fun hid _ => hid, fun hid => hid rfl⟩
  | otherBranch =>
    have hbranch : isPreRelease "br".toList = true := by decide
    rw [stage, hscenario]
    exact iff_of_true hbranch nofun
  | mainBuild =>
    rw [stage, hscenario]
    exact iff_of_true (isPreRelease_count _) nofun

theorem isSemantic_text_append_suffixText_iff {context : BuildContext} {v : Version} :
    IsSemantic (v.text ++ context.suffixText) ↔ context.scenario = .release ∨
      isBuild context.shortRevision = true ∧ (context.scenario = .pullRequest →
        isPreRelease ("pr".toList ++ trim (context.pullRequestId.getD [])) = true) := by
  by_cases hrelease : context.scenario = .release
  · rw [suffixText_eq_nil_iff.mpr hrelease, List.append_nil]
    exact iff_of_true v.isSemantic_text (.inl hrelease)
  · rw [suffixText_of_ne_release hrelease, Version.isSemantic_text_append_marked_iff,
      isPreRelease_stage_iff hrelease, or_iff_right hrelease]
    exact and_comm

end BuildContext

/--
The version to publish of a resolution is a semantic version exactly if all messages are blank, or
the build is a release, or its revision is a list of identifiers joined by dots and so is, for a
pull request, `pr` with the trimmed identifier after it, as a pre-release. So a build in an
environment without a revision never publishes a semantic version, unless it is a release or has no
commit with text.
-/
theorem resolve_isSemantic_iff {request : Request} {resolution : Resolution}
    (h : resolve request = .ok resolution) :
    (IsSemantic resolution.finalVersion ↔
      (∀ message ∈ request.messages, allBlank message = true) ∨
        resolution.scenario = .release ∨
        isBuild request.context.shortRevision = true ∧ (resolution.scenario = .pullRequest →
          isPreRelease ("pr".toList ++ trim (request.context.pullRequestId.getD [])) = true)) ∧
    ∀ (environment : Environment) (settings : Settings),
      environment.buildContext settings = .ok request.context →
      environment.value "SHORT_SHA" = [] →
      (∃ message ∈ request.messages, allBlank message = false) →
      resolution.scenario ≠ .release → ¬IsSemantic resolution.finalVersion := by
  have hiff : IsSemantic resolution.finalVersion ↔
      (∀ message ∈ request.messages, allBlank message = true) ∨
        resolution.scenario = .release ∨
        isBuild request.context.shortRevision = true ∧ (resolution.scenario = .pullRequest →
          isPreRelease ("pr".toList ++ trim (request.context.pullRequestId.getD [])) = true) := by
    by_cases hcommit : ∃ message ∈ request.messages, allBlank message = false
    · have hnot : ¬∀ message ∈ request.messages, allBlank message = true := by
        simpa using hcommit
      rw [(resolve_finalVersion h hcommit).2, resolve_scenario h, or_iff_right hnot]
      exact BuildContext.isSemantic_text_append_suffixText_iff
    · have hblank : ∀ message ∈ request.messages, allBlank message = true := by
        simpa using hcommit
      rw [resolve_finalVersion_of_blank h hblank]
      exact iff_of_true resolution.baseVersion.isSemantic_text (.inl hblank)
  refine ⟨hiff, ?_⟩
  intro environment settings hcontext hrevision hcommit hscenario hsemantic
  obtain ⟨message, hmem, hmessage⟩ := hcommit
  rcases hiff.mp hsemantic with hblank | hrelease | ⟨hbuild, _⟩
  · rw [hblank message hmem] at hmessage
    cases hmessage
  · exact hscenario hrelease
  · rw [Environment.shortRevision_eq hcontext, hrevision] at hbuild
    exact absurd hbuild (by decide)

theorem pullRequestAfter_isSemantic :
    (∃ resolution, resolve (pullRequestAfter "v01.\u0664.2" " 7.1\n" "0a.b") = .ok resolution ∧
      resolution.finalVersion = "1.5.0-pr7.1+0a.b".toList ∧ IsSemantic resolution.finalVersion) ∧
    (∃ resolution, resolve (pullRequestAfter "v01.\u0664.2" "7.01" "0a.b") = .ok resolution ∧
      ¬IsSemantic resolution.finalVersion) ∧
    ∃ resolution, resolve (trunkFeature true) = .ok resolution ∧
      (releaseAsked "TRUE").buildContext (trunkFeature true).settings =
        .ok (trunkFeature true).context ∧
      (releaseAsked "TRUE").value "SHORT_SHA" = [] ∧ ¬IsSemantic resolution.finalVersion := by
  refine ⟨?_, ?_, ?_⟩
  · obtain ⟨resolution, hresolve, hversion⟩ : ∃ resolution,
        resolve (pullRequestAfter "v01.\u0664.2" " 7.1\n" "0a.b") = .ok resolution ∧
          resolution.finalVersion = "1.5.0-pr7.1+0a.b".toList := ⟨_, rfl, rfl⟩
    refine ⟨resolution, hresolve, hversion, (resolve_isSemantic_iff hresolve).1.mpr ?_⟩
    exact .inr (.inr ⟨by decide, fun _ => by decide⟩)
  · obtain ⟨resolution, hresolve, hscenario⟩ : ∃ resolution,
        resolve (pullRequestAfter "v01.\u0664.2" "7.01" "0a.b") = .ok resolution ∧
          resolution.scenario = .pullRequest := ⟨_, rfl, rfl⟩
    refine ⟨resolution, hresolve, mt (resolve_isSemantic_iff hresolve).1.mp ?_⟩
    rintro (hblank | hrelease | ⟨_, hid⟩)
    · exact absurd (hblank "feat: a".toList (List.mem_singleton_self _)) (by decide)
    · rw [hscenario] at hrelease
      cases hrelease
    · exact absurd (hid hscenario) (by decide)
  · obtain ⟨resolution, hresolve, hscenario⟩ : ∃ resolution,
        resolve (trunkFeature true) = .ok resolution ∧ resolution.scenario = .pullRequest :=
      ⟨_, rfl, rfl⟩
    have hcontext : (releaseAsked "TRUE").buildContext (trunkFeature true).settings =
        .ok (trunkFeature true).context := by rfl
    have hrevision : (releaseAsked "TRUE").value "SHORT_SHA" = [] := by rfl
    refine ⟨resolution, hresolve, hcontext, hrevision, ?_⟩
    refine (resolve_isSemantic_iff hresolve).2 _ _ hcontext hrevision ?_ (by simp [hscenario])
    exact ⟨"feat: a".toList, List.mem_singleton_self _, by decide⟩

end NextRelease
