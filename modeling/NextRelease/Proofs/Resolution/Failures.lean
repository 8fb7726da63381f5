import NextRelease.Proofs.Resolution.Answer
import NextRelease.Proofs.Version.Reading

/-!
# When a resolution fails

A resolution fails in four cases, tested in this order: a pull request lacks its identifier, a main
build has more commits than can be written, the last tag has too long a run of digits, and the next
version needs a digit too many. The first two do not look at the tag or at the commits, and the
third not at the commits. Every other request is answered; in particular a tag that is missing or
has another form than version tags never stands in the way.
-/

namespace NextRelease

open Text

/-! ## The next version -/

namespace Version

/-- The component that an increment raises, as it is afterwards. -/
def raised (v : Version) : Increment → Nat
  | .major => v.major + 1
  | .minor => v.minor + 1
  | _ => v.patch + 1

/-- After a version that can be written the next one can, unless it needs one digit more. -/
theorem isWritable_next_iff {v : Version} (h : v.IsWritable) (increment : Increment) :
    (v.next increment).IsWritable ↔ v.raised increment ≠ 10 ^ numeralLimit := by
  obtain ⟨hmajor, hminor, hpatch⟩ := h
  constructor
  · rintro ⟨hmajor', hminor', hpatch'⟩
    cases increment with
    | major => exact Nat.ne_of_lt hmajor'
    | minor => exact Nat.ne_of_lt hminor'
    | patch => exact Nat.ne_of_lt hpatch'
    | none => exact Nat.ne_of_lt hpatch'
  · intro hraised
    have hpos := isWritable_zero.major_lt
    cases increment with
    | major => exact ⟨Nat.lt_of_le_of_ne hmajor hraised, hpos, hpos⟩
    | minor => exact ⟨hmajor, Nat.lt_of_le_of_ne hminor hraised, hpos⟩
    | patch => exact ⟨hmajor, hminor, Nat.lt_of_le_of_ne hpatch hraised⟩
    | none => exact ⟨hmajor, hminor, Nat.lt_of_le_of_ne hpatch hraised⟩

end Version

namespace Request

/-! ## The cases -/

/-- The last tag has the form of a version tag, with the digit runs. -/
def TagRuns (request : Request) (digits : ComponentDigits) : Prop :=
  TagHasRuns request.settings.tagPrefix request.lastTag digits

/-- The last tag stands for a version, and the run is its first one with too many digits. -/
def LongRun (request : Request) (run : Text) : Prop :=
  ∃ digits, request.TagRuns digits ∧ digits.firstLong? = some run

/-- Some commit has text, and what its increment raises needs one digit more than is allowed. -/
def NextTooLong (request : Request) : Prop :=
  (∃ message ∈ request.messages, allBlank message = false) ∧
    ∃ previous, TagStandsFor request.settings.tagPrefix request.lastTag previous ∧
      previous.raised request.counts.increment = 10 ^ numeralLimit

/--
Why a request has no answer. The cases stand in the order in which they are tested: each one
supposes that the ones before it do not apply.
-/
inductive FailsWith (request : Request) : Failure → Prop
  | missingId (hid : request.context.LacksId) : FailsWith request .missingPullRequestId
  | commitCount (hid : ¬request.context.LacksId) (hcount : request.context.CountTooLong) :
    FailsWith request .numberTooLong
  | tagRun (hid : ¬request.context.LacksId) (hcount : ¬request.context.CountTooLong) {run : Text}
    (hrun : request.LongRun run) : FailsWith request (.numeralTooLong run.length)
  | nextVersion (hid : ¬request.context.LacksId) (hcount : ¬request.context.CountTooLong)
    (hrun : ∀ run, ¬request.LongRun run) (hnext : request.NextTooLong) :
    FailsWith request .numberTooLong

/-! ## Reading and writing -/

variable {request : Request}

theorem reading_eq_error_iff {failure : Failure} :
    request.reading = .error failure ↔
      ∃ run, request.LongRun run ∧ failure = .numeralTooLong run.length := by
  rw [reading, readTag_eq_error_iff]
  constructor
  · rintro ⟨digits, run, hruns, hlong, rfl⟩
    exact ⟨run, ⟨digits, hruns, hlong⟩, rfl⟩
  · rintro ⟨run, ⟨digits, hruns, hlong⟩, rfl⟩
    exact ⟨digits, run, hruns, hlong, rfl⟩

/-- A tag that is read has no run that is too long, and its version can be written. -/
theorem reading_eq_ok {reading : TagReading} (h : request.reading = .ok reading) :
    (∀ run, ¬request.LongRun run) ∧ reading.version.IsWritable ∧
      TagStandsFor request.settings.tagPrefix request.lastTag reading.version := by
  refine ⟨fun run hrun => ?_, ?_⟩
  · have herror := reading_eq_error_iff.mpr ⟨run, hrun, rfl⟩
    simp [h] at herror
  · rcases readTag_eq_ok_cases h with ⟨digits, hruns, hshort, rfl⟩ | ⟨hnone, rfl⟩
    · exact ⟨ComponentDigits.isWritable_value hshort, .runs hruns⟩
    · exact ⟨Version.isWritable_zero, .fallback hnone⟩

theorem unchanged_ne_error {reading : TagReading} (h : reading.version.IsWritable)
    {failure : Failure} : request.unchanged reading ≠ .error failure := by
  rw [unchanged_eq_ok_iff.mpr ⟨h, rfl⟩]
  nofun

/-- Only the number of digits of the next version can stop a request that has commits. -/
theorem changed_eq_error_iff (h : request.messages.length < 10 ^ numeralLimit)
    {reading : TagReading} {suffix : Text} {failure : Failure} :
    request.changed reading suffix = .error failure ↔
      ¬(reading.version.bump request.counts).IsWritable ∧ failure = .numberTooLong := by
  have htotal : request.counts.total < 10 ^ numeralLimit := by
    rw [counts, Counts.total_ofCommits, commits, classifyAll, List.length_map]
    exact Nat.lt_of_le_of_lt (List.length_filter_le _ _) h
  obtain ⟨reason, hreason⟩ := Counts.exists_reason htotal
  simp only [changed, publishedVersion, hreason, bind_eq_error_iff, Version.write_eq_error_iff,
    pure_ne_error, and_false, exists_false, or_false, reduceCtorEq]

end Request

/-! ## The failures of a resolution -/

theorem TagStandsFor.unique {tagPrefix : Text} {tag : Option Text} {v w : Version}
    (hv : TagStandsFor tagPrefix tag v) (hw : TagStandsFor tagPrefix tag w) : v = w := by
  cases hv with
  | runs hruns =>
    cases hw with
    | runs hother => rw [tagHasRuns_unique hruns hother]
    | fallback hnone => exact absurd hruns (hnone _)
  | fallback hnone =>
    cases hw with
    | runs hruns => exact absurd hruns (hnone _)
    | fallback _ => rfl

theorem resolve_eq_error_iff {request : Request} (h : request.messages.length < 10 ^ numeralLimit)
    {failure : Failure} : resolve request = .error failure ↔ request.FailsWith failure := by
  simp only [resolve, bind_eq_error_iff, BuildContext.suffix_eq_error_iff,
    BuildContext.suffix_eq_ok_iff, BuildContext.allowsSuffix_iff, Request.reading_eq_error_iff]
  constructor
  · rintro ((⟨hid, rfl⟩ | ⟨hcount, rfl⟩) | ⟨suffix, ⟨⟨hid, hcount⟩, rfl⟩, hrest⟩)
    · exact .missingId hid
    · exact .commitCount hcount.not_lacksId hcount
    · rcases hrest with ⟨run, hrun, rfl⟩ | ⟨reading, hreading, hanswer⟩
      · exact .tagRun hid hcount hrun
      · obtain ⟨hrun, hwritable, hstands⟩ := Request.reading_eq_ok hreading
        split at hanswer
        · exact absurd hanswer (Request.unchanged_ne_error hwritable)
        · next hcommits =>
          obtain ⟨hnot, rfl⟩ := (Request.changed_eq_error_iff h).mp hanswer
          rw [Version.bump, Version.isWritable_next_iff hwritable, not_not] at hnot
          exact .nextVersion hid hcount hrun
            ⟨Request.commits_ne_nil_iff.mp hcommits, _, hstands, hnot⟩
  · intro hfails
    cases hfails with
    | missingId hid => exact .inl (.inl ⟨hid, rfl⟩)
    | commitCount hid hcount => exact .inl (.inr ⟨hcount, rfl⟩)
    | tagRun hid hcount hrun => exact .inr ⟨_, ⟨⟨hid, hcount⟩, rfl⟩, .inl ⟨_, hrun, rfl⟩⟩
    | nextVersion hid hcount hrun hnext =>
      obtain ⟨hcommit, previous, hstands, hraised⟩ := hnext
      cases hreading : request.reading with
      | error failure =>
        obtain ⟨run, hlong, _⟩ := Request.reading_eq_error_iff.mp hreading
        exact absurd hlong (hrun run)
      | ok reading =>
        obtain ⟨_, hwritable, hstands'⟩ := Request.reading_eq_ok hreading
        obtain rfl := hstands.unique hstands'
        refine .inr ⟨_, ⟨⟨hid, hcount⟩, rfl⟩, .inr ⟨reading, rfl, ?_⟩⟩
        rw [if_neg (Request.commits_ne_nil_iff.mpr hcommit), Request.changed_eq_error_iff h]
        refine ⟨?_, rfl⟩
        rw [Version.bump, Version.isWritable_next_iff hwritable, not_not]
        exact hraised

/-- Both versions of an answer can be written. -/
theorem resolve_isWritable {request : Request} {resolution : Resolution}
    (h : resolve request = .ok resolution) :
    resolution.previousVersion.IsWritable ∧ resolution.baseVersion.IsWritable := by
  obtain ⟨_, reading, hreading, ⟨_, _, rfl⟩ | ⟨_, hbase, _, _, rfl⟩⟩ := resolve_eq_ok_iff.mp h
  · exact ⟨(Request.reading_eq_ok hreading).2.1, (Request.reading_eq_ok hreading).2.1⟩
  · exact ⟨(Request.reading_eq_ok hreading).2.1, hbase⟩

/--
With fewer messages than the limit on numbers, a resolution fails exactly in the cases of
`Request.FailsWith`, the first that applies, and gives an answer in all others. The one diagnosed
failure is that of the build context, so a tag that is no version tag is never the reason: such a
tag, and a missing one, stands for zero and brings one advisory, and a version tag brings none.
-/
theorem resolve_fails_iff {request : Request} (h : request.messages.length < 10 ^ numeralLimit) :
    (∀ failure, resolve request = .error failure ↔ request.FailsWith failure) ∧
      ((∃ resolution, resolve request = .ok resolution) ↔
        ∀ failure, ¬request.FailsWith failure) ∧
      (∀ failure diagnosis, resolve request = .error failure →
        failure.diagnosis? = some diagnosis → diagnosis.code = .contextMalformed) ∧
      ∀ resolution, resolve request = .ok resolution →
        (∀ digits, request.TagRuns digits →
          resolution.previousVersion = digits.value ∧ resolution.advisories = []) ∧
        ((∀ digits, ¬request.TagRuns digits) →
          resolution.previousVersion = .zero ∧ ∃ advisory, resolution.advisories = [advisory]) := by
  refine ⟨fun failure => resolve_eq_error_iff h, ?_, ?_, ?_⟩
  · constructor
    · rintro ⟨resolution, hresolve⟩ failure hfails
      rw [← resolve_eq_error_iff h, hresolve] at hfails
      cases hfails
    · intro hnone
      cases hresolve : resolve request with
      | error failure => exact absurd ((resolve_eq_error_iff h).mp hresolve) (hnone failure)
      | ok resolution => exact ⟨resolution, rfl⟩
  · intro failure diagnosis hresolve hdiagnosis
    cases (resolve_eq_error_iff h).mp hresolve with
    | missingId _ => exact Option.some.inj hdiagnosis ▸ rfl
    | commitCount _ _ => cases hdiagnosis
    | tagRun _ _ _ => cases hdiagnosis
    | nextVersion _ _ _ _ => cases hdiagnosis
  · intro resolution hresolve
    obtain ⟨reading, hreading, hprevious, hadvisories⟩ := resolve_reading hresolve
    rcases readTag_eq_ok_cases hreading with ⟨digits, hruns, _, rfl⟩ | ⟨hnone, rfl⟩
    · refine ⟨fun other hother => ?_, fun hno => absurd hruns (hno digits)⟩
      obtain rfl := tagHasRuns_unique hruns hother
      exact ⟨hprevious, hadvisories⟩
    · exact ⟨fun digits hruns => absurd hruns (hnone digits), fun _ => ⟨hprevious, _, hadvisories⟩⟩

/-- The last version under `1.2` that can be written. -/
def lastPatch : Version := ⟨1, 2, 10 ^ numeralLimit - 1⟩

/-- A release with only documentation after the last patch. -/
def afterLastPatch : Request where
  lastTag := some ("v".toList ++ lastPatch.text)
  messages := ["docs: a".toList]
  context :=
    { currentBranch := ['d'], defaultBranch := ['d'], shortRevision := "abc".toList,
      isReleaseRequested := true }

theorem afterLastPatch_fails :
    afterLastPatch.messages.length < 10 ^ numeralLimit ∧
      resolve afterLastPatch = .error .numberTooLong := by
  have hlength : afterLastPatch.messages.length < 10 ^ numeralLimit :=
    Nat.one_lt_pow (by decide) (by decide)
  have hwritable : lastPatch.IsWritable :=
    ⟨hlength, Nat.lt_of_lt_of_le (by decide) (Nat.le_self_pow (by decide) 10),
      Nat.sub_lt (Nat.zero_lt_of_lt hlength) Nat.one_pos⟩
  have hruns : afterLastPatch.TagRuns lastPatch.digits := tagHasRuns_written (by decide) lastPatch
  obtain ⟨hshort, hvalue⟩ :=
    ComponentDigits.version_eq_ok_iff.mp (Version.version_digits hwritable)
  refine ⟨hlength, ((resolve_fails_iff hlength).1 _).mpr (.nextVersion ?_ ?_ ?_ ⟨?_, ?_⟩)⟩
  · rintro ⟨hpull, _⟩
    exact absurd hpull (by decide)
  · rintro ⟨hscenario, _⟩
    exact absurd hscenario (by decide)
  · rintro run ⟨digits, hother, hlong⟩
    obtain rfl := tagHasRuns_unique hruns hother
    rw [hshort] at hlong
    cases hlong
  · exact ⟨"docs: a".toList, List.mem_singleton_self _, by decide⟩
  · refine ⟨_, .runs hruns, ?_⟩
    rw [← hvalue, show afterLastPatch.counts.increment = .patch by decide]
    exact Nat.sub_add_cancel (Nat.one_le_two_pow.trans (Nat.pow_le_pow_left (by decide) _))

end NextRelease
