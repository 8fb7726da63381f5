import NextRelease.Proofs.Resolution.Failures
import NextRelease.Proofs.Text.Quoted

/-!
# What is said of a tag that is no version tag

A tag that is not read as a version brings one advisory. A missing or blank tag is called missing,
and any other one is quoted, so the advisory is a single line of printable characters and tells the
tag: under one prefix of tags, two advisories are the same only for the same tag, or if both tags
are missing.
-/

namespace NextRelease

open Text

namespace TagAdvisory

/-- What is said when there is no tag. -/
def missingMessage : Text := "No previous version tag found, using 0.0.0 as baseline".toList

theorem message_of_isMissing {advisory : TagAdvisory} (h : advisory.isMissing = true) :
    advisory.message = missingMessage :=
  if_pos h

theorem message_of_not_isMissing {advisory : TagAdvisory} (h : advisory.isMissing = false) :
    ∃ tag, advisory.tag = some tag ∧
      advisory.message =
        "Tag ".toList ++ quoted tag ++ " is not a [".toList ++ advisory.tagPrefix ++
          "]MAJOR.MINOR.PATCH version, defaulting to 0.0.0".toList := by
  obtain ⟨tag, tagPrefix⟩ := advisory
  cases tag with
  | none => cases h
  | some tag => exact ⟨tag, rfl, if_neg (by rw [h]; exact Bool.false_ne_true)⟩

theorem message_eq_missingMessage_iff {advisory : TagAdvisory} :
    advisory.message = missingMessage ↔ advisory.isMissing = true := by
  refine ⟨fun hmessage => ?_, message_of_isMissing⟩
  cases hmissing : advisory.isMissing with
  | true => rfl
  | false =>
    obtain ⟨tag, _, hquoted⟩ := message_of_not_isMissing hmissing
    -- The two texts differ in their first letter.
    have hhead := congrArg List.head? (hquoted.symm.trans hmessage)
    cases hhead

/-- Under one prefix the advisory tells the tag, unless there is none. -/
theorem message_eq_message_iff {first second : TagAdvisory}
    (h : first.tagPrefix = second.tagPrefix) :
    first.message = second.message ↔
      first.tag = second.tag ∨ first.isMissing = true ∧ second.isMissing = true := by
  constructor
  · intro hmessage
    cases hfirst : first.isMissing with
    | true =>
      rw [message_of_isMissing hfirst, eq_comm, message_eq_missingMessage_iff] at hmessage
      exact .inr ⟨rfl, hmessage⟩
    | false =>
      cases hsecond : second.isMissing with
      | true =>
        rw [message_of_isMissing hsecond, message_eq_missingMessage_iff, hfirst] at hmessage
        cases hmessage
      | false =>
        obtain ⟨tag, htag, heq⟩ := message_of_not_isMissing hfirst
        obtain ⟨other, hother, heq'⟩ := message_of_not_isMissing hsecond
        rw [heq, heq', h] at hmessage
        have hupTo := List.append_cancel_right (List.append_cancel_right hmessage)
        have hquoted := List.append_cancel_left (List.append_cancel_right hupTo)
        rw [htag, hother, quoted_injective hquoted]
        exact .inl rfl
  · rintro (htag | ⟨hfirst, hsecond⟩)
    · obtain ⟨tag, start⟩ := first
      obtain ⟨other, start'⟩ := second
      obtain rfl : tag = other := htag
      obtain rfl : start = start' := h
      rfl
    · rw [message_of_isMissing hfirst, message_of_isMissing hsecond]

/-- An advisory is printable if the prefix of tags is, whatever the tag holds. -/
theorem isPrintable_of_mem_message {advisory : TagAdvisory}
    (htagPrefix : ∀ c ∈ advisory.tagPrefix, isPrintable c = true) {c : Char}
    (h : c ∈ advisory.message) : isPrintable c = true := by
  cases hmissing : advisory.isMissing with
  | true =>
    have hall : missingMessage.all isPrintable = true := by decide
    rw [message_of_isMissing hmissing] at h
    exact List.all_eq_true.mp hall c h
  | false =>
    have hstart : ("Tag ".toList.all isPrintable) = true := by decide
    have hmiddle : (" is not a [".toList.all isPrintable) = true := by decide
    have hend :
        ("]MAJOR.MINOR.PATCH version, defaulting to 0.0.0".toList.all isPrintable) = true := by
      decide
    obtain ⟨tag, _, hmessage⟩ := message_of_not_isMissing hmissing
    rw [hmessage] at h
    simp only [List.mem_append] at h
    rcases h with (((h | h) | h) | h) | h
    · exact List.all_eq_true.mp hstart c h
    · exact isPrintable_of_mem_quoted h
    · exact List.all_eq_true.mp hmiddle c h
    · exact htagPrefix c h
    · exact List.all_eq_true.mp hend c h

end TagAdvisory

theorem resolve_advisories {request : Request} {resolution : Resolution}
    (htag : ∀ digits, ¬request.TagRuns digits) (h : resolve request = .ok resolution) :
    resolution.advisories =
      [TagAdvisory.message ⟨request.lastTag, request.settings.tagPrefix⟩] := by
  obtain ⟨reading, hreading, _, hadvisories⟩ := resolve_reading h
  rw [Request.reading, readTag_of_not_tagHasRuns htag] at hreading
  cases hreading
  exact hadvisories

/--
A tag that has not the form of a version tag brings exactly one advisory. Under a printable prefix
this is a single line of printable characters, none of which is a control character. It says that
the tag is missing exactly if there is none or a blank one. Another request under the same prefix
whose tag has not that form either brings the same advisory exactly if it has the same tag, or if
both tags are missing.
-/
theorem resolve_advisory_identifies {request : Request} {resolution : Resolution}
    (htag : ∀ digits, ¬request.TagRuns digits)
    (htagPrefix : ∀ c ∈ request.settings.tagPrefix, isPrintable c = true)
    (h : resolve request = .ok resolution) :
    ∃ advisory, resolution.advisories = [advisory] ∧
      (∀ c ∈ advisory, isPrintable c = true ∧ ¬IsControl c ∧ c ∉ lineEnds) ∧
      (advisory = "No previous version tag found, using 0.0.0 as baseline".toList ↔
        request.lastTag.all allBlank = true) ∧
      ∀ (other : Request) (answer : Resolution), (∀ digits, ¬other.TagRuns digits) →
        other.settings.tagPrefix = request.settings.tagPrefix → resolve other = .ok answer →
          (answer.advisories = [advisory] ↔
            other.lastTag = request.lastTag ∨
              other.lastTag.all allBlank = true ∧ request.lastTag.all allBlank = true) := by
  refine ⟨_, resolve_advisories htag h, fun c hc => ?_, ?_, ?_⟩
  · have hprintable : isPrintable c = true := TagAdvisory.isPrintable_of_mem_message htagPrefix hc
    exact ⟨hprintable, not_isControl_of_isPrintable hprintable,
      notMem_lineEnds_of_isPrintable hprintable⟩
  · exact TagAdvisory.message_eq_missingMessage_iff
  · intro other answer hother hsame hanswer
    rw [resolve_advisories hother hanswer, List.singleton_inj]
    exact TagAdvisory.message_eq_message_iff hsame

/-- A release of a feature after a tag. -/
def featureAfter (tag : String) : Request where
  lastTag := some tag.toList
  messages := ["feat: a".toList]
  context :=
    { currentBranch := ['d'], defaultBranch := ['d'], shortRevision := "abc".toList,
      isReleaseRequested := true }

/-- A tag with a line feed and one with a backslash and a letter are quoted differently. -/
theorem featureAfter_identified :
    (∀ digits, ¬(featureAfter "'1.2\n\x1b").TagRuns digits) ∧
      ∃ resolution answer, resolve (featureAfter "'1.2\n\x1b") = .ok resolution ∧
        resolve (featureAfter "'1.2\\n\x1b") = .ok answer ∧
        (∀ advisory ∈ resolution.advisories, '\n' ∉ advisory ∧ '\x1b' ∉ advisory) ∧
        answer.advisories ≠ resolution.advisories := by
  have htag : ∀ digits, ¬(featureAfter "'1.2\n\x1b").TagRuns digits :=
    forall_not_tagHasRuns_iff.mpr (by decide)
  obtain ⟨resolution, hresolve⟩ : ∃ resolution,
    resolve (featureAfter "'1.2\n\x1b") = .ok resolution := ⟨_, rfl⟩
  obtain ⟨answer, hanswer⟩ : ∃ answer,
    resolve (featureAfter "'1.2\\n\x1b") = .ok answer := ⟨_, rfl⟩
  obtain ⟨advisory, hadvisories, hprintable, _, hothers⟩ :=
    resolve_advisory_identifies htag (List.all_eq_true.mp (by decide)) hresolve
  refine ⟨htag, resolution, answer, hresolve, hanswer, ?_, ?_⟩
  · intro found hfound
    rw [hadvisories, List.mem_singleton] at hfound
    subst hfound
    exact ⟨fun hmem => absurd (hprintable _ hmem).1 (by decide),
      fun hmem => absurd (hprintable _ hmem).1 (by decide)⟩
  · rw [hadvisories]
    intro hsame
    have hother : ∀ digits, ¬(featureAfter "'1.2\\n\x1b").TagRuns digits :=
      forall_not_tagHasRuns_iff.mpr (by decide)
    have hcases := (hothers _ answer hother rfl hanswer).mp hsame
    exact absurd hcases (by decide)

end NextRelease
