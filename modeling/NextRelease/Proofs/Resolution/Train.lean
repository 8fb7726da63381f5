import NextRelease.Proofs.Resolution.Answer
import NextRelease.Resolution.Train

/-!
# The invariant of release trains

A train holds the tag of the version that it published last. This is the one fact that carries the
proofs: one step keeps it (`holdsLatest_advance`), so every run does (`holdsLatest_run`), and
because a held tag is read back as its version, the next release starts from that version and
publishes a greater one.
-/

namespace NextRelease.Train

open Text

variable {settings : Settings}

/-! ## What a run publishes -/

/-- The outcomes of some steps, each with the tag after it. -/
abbrev Outcomes := List (Except Failure Resolution × Option Text)

/-- The base version that an outcome publishes, if it publishes one. -/
def publishedBy : Except Failure Resolution → Option Version
  | .ok resolution => if publishes resolution then some resolution.baseVersion else none
  | .error _ => none

/-- The base versions that are published by some outcomes, in order. -/
def published (outcomes : Outcomes) : List Version :=
  outcomes.filterMap fun entry => publishedBy entry.1

/-- The tag after some outcomes that started from a tag. -/
def tagHeld (start : Option Text) (outcomes : Outcomes) : Option Text :=
  (outcomes.getLast?.map (·.2)).getD start

/-- The tag is the one of the start or, once a version is published, that of the latest one. -/
def HoldsLatest (settings : Settings) (start : Option Text) (versions : List Version)
    (tag : Option Text) : Prop :=
  match versions.getLast? with
  | none => tag = start
  | some latest => ∃ written, latest.tag settings.tagPrefix = .ok written ∧ tag = some written

/-- The step is a release with a commit that has text, so its outcome may publish a version. -/
def Step.mayPublish (step : Step) : Bool :=
  step.context.scenario = .release && step.messages.any (!allBlank ·)

/-! ## One step -/

/-- An outcome publishes the version after the one that was read from the tag. -/
theorem publishedBy_resolve {request : Request} {version : Version}
    (h : publishedBy (resolve request) = some version) :
    ∃ reading, request.reading = .ok reading ∧ version = reading.version.bump request.counts ∧
      version.IsWritable ∧ request.commits ≠ [] ∧ request.context.scenario = .release := by
  cases hresolve : resolve request with
  | error failure => simp [hresolve, publishedBy] at h
  | ok resolution =>
    obtain ⟨_, reading, hreading, ⟨_, _, rfl⟩ | ⟨hcommits, hwritable, reason, _, rfl⟩⟩ :=
      resolve_eq_ok_iff.mp hresolve
    · simp [hresolve, publishedBy, publishes, Request.unchangedAnswer] at h
    · simp only [hresolve, publishedBy, publishes, Request.changedAnswer, Bool.and_eq_true,
        decide_eq_true_eq, Option.ite_none_right_eq_some, Option.some.injEq] at h
      obtain ⟨⟨hscenario, _⟩, rfl⟩ := h
      exact ⟨reading, hreading, rfl, hwritable, hcommits, hscenario⟩

/-- A step that publishes a version replaces the tag by the one of this version. -/
theorem advance_of_publishedBy {tag : Option Text} {step : Step} {version : Version}
    (h : publishedBy (advance settings tag step).1 = some version) :
    ∃ written, version.tag settings.tagPrefix = .ok written ∧
      (advance settings tag step).2 = some written := by
  obtain ⟨_, _, _, hwritable, _, _⟩ := publishedBy_resolve h
  have htag : version.tag settings.tagPrefix = .ok (settings.tagPrefix ++ version.text) :=
    Version.tag_eq_ok_iff.mpr ⟨hwritable, rfl⟩
  refine ⟨_, htag, ?_⟩
  simp only [advance] at h ⊢
  cases hresolve : resolve (step.request settings tag) with
  | error failure => simp [hresolve, publishedBy] at h
  | ok resolution =>
    simp only [hresolve, publishedBy, Option.ite_none_right_eq_some, Option.some.injEq] at h
    obtain ⟨hpublishes, rfl⟩ := h
    simp [tagAfter, htag, hpublishes]

/-- Every other step leaves the tag as it is. -/
theorem advance_of_not_publishedBy {tag : Option Text} {step : Step}
    (h : publishedBy (advance settings tag step).1 = none) :
    (advance settings tag step).2 = tag := by
  simp only [advance] at h ⊢
  cases hresolve : resolve (step.request settings tag) with
  | error failure => rfl
  | ok resolution =>
    have hpublishes : publishes resolution = false := by
      simpa [hresolve, publishedBy] using h
    simp only [tagAfter, hpublishes]
    split
    · simp
    · rfl

/-- A build that is no release, and one without commits, publishes nothing. -/
theorem publishedBy_advance_of_not_mayPublish {tag : Option Text} {step : Step}
    (h : step.mayPublish = false) : publishedBy (advance settings tag step).1 = none := by
  by_contra hne
  obtain ⟨version, hversion⟩ := Option.ne_none_iff_exists'.mp hne
  obtain ⟨_, _, _, _, hcommits, hscenario⟩ := publishedBy_resolve hversion
  obtain ⟨message, hmessage, hblank⟩ := Request.commits_ne_nil_iff.mp hcommits
  have hmay : step.mayPublish = true := by
    simp only [Step.mayPublish, Bool.and_eq_true, decide_eq_true_eq, List.any_eq_true]
    exact ⟨hscenario, message, hmessage, by simp [hblank]⟩
  simp [hmay] at h

theorem holdsLatest_advance {start tag : Option Text} {versions : List Version}
    (h : HoldsLatest settings start versions tag) (step : Step) :
    HoldsLatest settings start
      (versions ++ (publishedBy (advance settings tag step).1).toList)
      (advance settings tag step).2 := by
  cases hpublished : publishedBy (advance settings tag step).1 with
  | none => simpa [advance_of_not_publishedBy hpublished] using h
  | some version => simpa [HoldsLatest] using advance_of_publishedBy hpublished

/-! ## Runs -/

theorem run_append (tag : Option Text) (first rest : List Step) :
    run settings tag (first ++ rest) =
      run settings tag first ++ run settings (tagHeld tag (run settings tag first)) rest := by
  induction first generalizing tag with
  | nil => rfl
  | cons step first ih =>
    have hheld : tagHeld tag (run settings tag (step :: first)) =
        tagHeld (advance settings tag step).2
          (run settings (advance settings tag step).2 first) := by
      simp only [run, tagHeld]
      cases run settings (advance settings tag step).2 first with
      | nil => rfl
      | cons entry rest => simp [List.getLast?_cons]
    rw [hheld]
    simp [run, ih]

theorem length_run (settings : Settings) (tag : Option Text) (steps : List Step) :
    (run settings tag steps).length = steps.length := by
  induction steps generalizing tag with
  | nil => rfl
  | cons step rest ih => simp [run, ih]

/-- The first outcomes of a run are the run of the first steps. -/
theorem take_run (tag : Option Text) (steps : List Step) (k : Nat) :
    (run settings tag steps).take k = run settings tag (steps.take k) := by
  by_cases hk : k ≤ steps.length
  · have hlength : (run settings tag (steps.take k)).length = k := by
      rw [length_run, List.length_take, Nat.min_eq_left hk]
    conv_lhs => rw [← List.take_append_drop k steps, run_append]
    exact List.take_left' hlength
  · have hle : steps.length ≤ k := by omega
    rw [List.take_of_length_le hle, List.take_of_length_le (by rw [length_run]; exact hle)]

/-- The run of one more step, in terms of the tag held before it. -/
theorem run_concat (tag : Option Text) (steps : List Step) (step : Step) :
    run settings tag (steps ++ [step]) =
      run settings tag steps ++
        [advance settings (tagHeld tag (run settings tag steps)) step] := by
  rw [run_append]
  rfl

theorem tagHeld_concat (start : Option Text) (outcomes : Outcomes)
    (entry : Except Failure Resolution × Option Text) :
    tagHeld start (outcomes ++ [entry]) = entry.2 := by
  simp [tagHeld]

theorem published_concat (outcomes : Outcomes) (entry : Except Failure Resolution × Option Text) :
    published (outcomes ++ [entry]) = published outcomes ++ (publishedBy entry.1).toList := by
  cases h : publishedBy entry.1 with
  | none => simp [published, h]
  | some version => simp [published, h]

/-- After every run the train holds the tag of the version that it published last. -/
theorem holdsLatest_run (settings : Settings) (tag : Option Text) (steps : List Step) :
    HoldsLatest settings tag (published (run settings tag steps))
      (tagHeld tag (run settings tag steps)) := by
  -- Forward induction: the last step starts from the tag that the steps before it hold.
  induction steps using List.reverseRecOn with
  | nil => rfl
  | append_singleton steps step ih =>
    rw [run_concat, published_concat, tagHeld_concat]
    exact holdsLatest_advance ih step

/-! ## What the held tag says -/

/-- A tag that a train holds after a publication is read as the version published last. -/
theorem readTag_of_holdsLatest (h : StartsUnblank settings.tagPrefix) {start tag : Option Text}
    {versions : List Version} {latest : Version} (hheld : HoldsLatest settings start versions tag)
    (hlatest : versions.getLast? = some latest) :
    readTag settings.tagPrefix tag = .ok ⟨latest, none⟩ := by
  simp only [HoldsLatest, hlatest] at hheld
  obtain ⟨written, hwritten, rfl⟩ := hheld
  exact readTag_of_tag_eq_ok h hwritten

/-- A resolution starts from the version that its tag is read as. -/
theorem resolve_of_reading {request : Request} {resolution : Resolution} {version : Version}
    (h : resolve request = .ok resolution) (hreading : request.reading = .ok ⟨version, none⟩) :
    resolution.previousVersion = version ∧ resolution.advisories = [] := by
  obtain ⟨_, reading, hread, hanswer⟩ := resolve_eq_ok_iff.mp h
  obtain rfl : reading = ⟨version, none⟩ := Except.ok.inj (hread.symm.trans hreading)
  rcases hanswer with ⟨_, _, rfl⟩ | ⟨_, _, _, _, rfl⟩
  · exact ⟨rfl, rfl⟩
  · exact ⟨rfl, rfl⟩

/-- The tag after a publication is read as the published version. -/
theorem readTag_advance (h : StartsUnblank settings.tagPrefix) {tag : Option Text} {step : Step}
    {version : Version} (hstep : publishedBy (advance settings tag step).1 = some version) :
    readTag settings.tagPrefix (advance settings tag step).2 = .ok ⟨version, none⟩ := by
  obtain ⟨written, hwritten, htag⟩ := advance_of_publishedBy hstep
  rw [htag]
  exact readTag_of_tag_eq_ok h hwritten

/-! ## The published versions -/

theorem published_run_cons (tag : Option Text) (step : Step) (rest : List Step) :
    published (run settings tag (step :: rest)) =
      (publishedBy (advance settings tag step).1).toList ++
        published (run settings (advance settings tag step).2 rest) := by
  cases h : publishedBy (advance settings tag step).1 with
  | none => simp [run, published, h]
  | some version => simp [run, published, h]

/-- Every version that a run publishes is greater than the one its first tag is read as. -/
theorem lt_of_mem_published (h : StartsUnblank settings.tagPrefix) {tag : Option Text}
    {steps : List Step} {version : Version} (hmem : version ∈ published (run settings tag steps)) :
    ∃ reading, readTag settings.tagPrefix tag = .ok reading ∧ reading.version < version := by
  induction steps generalizing tag with
  | nil => simp [published, run] at hmem
  | cons step rest ih =>
    rw [published_run_cons] at hmem
    cases hstep : publishedBy (advance settings tag step).1 with
    | none =>
      simp only [hstep, advance_of_not_publishedBy hstep, Option.toList_none,
        List.nil_append] at hmem
      exact ih hmem
    | some next =>
      -- The later steps start from the published version, and that is already greater.
      obtain ⟨reading, hreading, rfl, _⟩ := publishedBy_resolve hstep
      refine ⟨reading, hreading, ?_⟩
      simp only [hstep, Option.toList_some, List.singleton_append, List.mem_cons] at hmem
      rcases hmem with rfl | hmem
      · exact reading.version.lt_bump _
      · obtain ⟨reading', hreading', hlt⟩ := ih hmem
        rw [readTag_advance h hstep] at hreading'
        obtain rfl := Except.ok.inj hreading'
        exact lt_trans (reading.version.lt_bump _) hlt

/-- The published versions increase: a run publishes no version twice. -/
theorem published_pairwise_lt (h : StartsUnblank settings.tagPrefix) (tag : Option Text)
    (steps : List Step) : (published (run settings tag steps)).Pairwise (· < ·) := by
  induction steps generalizing tag with
  | nil => exact .nil
  | cons step rest ih =>
    rw [published_run_cons]
    cases hstep : publishedBy (advance settings tag step).1 with
    | none => exact ih _
    | some version =>
      refine List.pairwise_cons.mpr ⟨fun later hlater => ?_, ih _⟩
      obtain ⟨reading, hreading, hlt⟩ := lt_of_mem_published h hlater
      rw [readTag_advance h hstep] at hreading
      obtain rfl := Except.ok.inj hreading
      exact hlt

/-- Builds that are no release and steps without commits make no difference to what is published. -/
theorem published_run_filter (tag : Option Text) (steps : List Step) :
    published (run settings tag (steps.filter Step.mayPublish)) =
      published (run settings tag steps) := by
  induction steps generalizing tag with
  | nil => rfl
  | cons step rest ih =>
    cases hmay : step.mayPublish with
    | true => rw [List.filter_cons_of_pos hmay, published_run_cons, published_run_cons, ih]
    | false =>
      have hstep : publishedBy (advance settings tag step).1 = none :=
        publishedBy_advance_of_not_mayPublish hmay
      rw [List.filter_cons_of_neg (by simp [hmay]), published_run_cons, hstep,
        advance_of_not_publishedBy hstep, ih]
      rfl

/-! ## The invariant -/

/-- A step of a run, with the tag held before it. -/
theorem getElem?_run (settings : Settings) (tag : Option Text) {steps : List Step} {step : Step}
    {k : Nat} (h : steps[k]? = some step) :
    (run settings tag steps)[k]? =
        some (advance settings (tagHeld tag ((run settings tag steps).take k)) step) ∧
      tagHeld tag ((run settings tag steps).take (k + 1)) =
        (advance settings (tagHeld tag ((run settings tag steps).take k)) step).2 := by
  have hk : k < steps.length := (List.getElem?_eq_some_iff.mp h).1
  have htake : (run settings tag steps).take (k + 1) =
      (run settings tag steps).take k ++
        [advance settings (tagHeld tag ((run settings tag steps).take k)) step] := by
    rw [take_run, take_run, List.take_add_one, h, Option.toList_some, run_concat]
  constructor
  · have hlength : ((run settings tag steps).take k).length = k := by
      rw [List.length_take, length_run]
      omega
    rw [← List.getElem?_take_of_lt (Nat.lt_succ_self k), htake,
      List.getElem?_append_right (by rw [hlength]), hlength, Nat.sub_self]
    rfl
  · rw [htake, tagHeld_concat]

/--
Every run of a train whose prefix of tags begins with no blank keeps to what it published: after
any number of steps it holds the tag of the version published last, every answer after a
publication starts from that version and carries no advisory, the published versions increase
from the version that the first tag is read as, and steps that are no release or have no commit
change neither the tag nor what is published.
-/
theorem run_keeps_published (h : StartsUnblank settings.tagPrefix) (tag : Option Text)
    (steps : List Step) :
    let outcomes := run settings tag steps
    (∀ k, HoldsLatest settings tag (published (outcomes.take k)) (tagHeld tag (outcomes.take k))) ∧
    (∀ k resolution next latest, outcomes[k]? = some (.ok resolution, next) →
      (published (outcomes.take k)).getLast? = some latest →
        resolution.previousVersion = latest ∧ resolution.advisories = []) ∧
    (published outcomes).Pairwise (· < ·) ∧
    (∀ first ∈ (published outcomes).head?, ∃ reading,
      readTag settings.tagPrefix tag = .ok reading ∧ reading.version < first) ∧
    (∀ k step, steps[k]? = some step → step.mayPublish = false →
      tagHeld tag (outcomes.take (k + 1)) = tagHeld tag (outcomes.take k)) ∧
    published (run settings tag (steps.filter Step.mayPublish)) = published outcomes := by
  have hheld : ∀ k, HoldsLatest settings tag (published ((run settings tag steps).take k))
      (tagHeld tag ((run settings tag steps).take k)) := by
    intro k
    rw [take_run]
    exact holdsLatest_run settings tag (steps.take k)
  refine ⟨hheld, ?_, published_pairwise_lt h tag steps, ?_, ?_, published_run_filter tag steps⟩
  · intro k resolution next latest hk hlatest
    have hlength : k < steps.length := by
      rw [← length_run settings tag steps]
      exact (List.getElem?_eq_some_iff.mp hk).1
    have hstep := (getElem?_run settings tag (List.getElem?_eq_getElem hlength)).1
    rw [hk, Option.some.injEq, Prod.mk.injEq] at hstep
    exact resolve_of_reading hstep.1.symm (readTag_of_holdsLatest h (hheld k) hlatest)
  · intro first hfirst
    exact lt_of_mem_published h (List.mem_of_mem_head? hfirst)
  · intro k step hstep hmay
    rw [(getElem?_run settings tag hstep).2]
    exact advance_of_not_publishedBy (publishedBy_advance_of_not_mayPublish hmay)

/-- A feature, a pull request, an empty step and a breaking change after `v1.4.2`. -/
def fourSteps : List Step :=
  let release : BuildContext :=
    { currentBranch := "main".toList, defaultBranch := "main".toList,
      shortRevision := "abc123".toList, isReleaseRequested := true }
  [⟨["feat: login".toList], release⟩,
    ⟨["fix: crash".toList], { release with isPullRequest := true, pullRequestId := some ['7'] }⟩,
    ⟨[" ".toList], release⟩,
    ⟨["fix!: drop v1".toList], release⟩]

theorem fourSteps_keep_published :
    StartsUnblank ({} : Settings).tagPrefix ∧
      published (run {} (some "v1.4.2".toList) fourSteps) = [⟨1, 5, 0⟩, ⟨2, 0, 0⟩] ∧
      (published (run {} (some "v1.4.2".toList) fourSteps)).Pairwise (· < ·) ∧
      HoldsLatest {} (some "v1.4.2".toList) [⟨1, 5, 0⟩, ⟨2, 0, 0⟩]
        (tagHeld (some "v1.4.2".toList) ((run {} (some "v1.4.2".toList) fourSteps).take 4)) := by
  have hunblank : StartsUnblank ({} : Settings).tagPrefix := by decide
  have hpublished : published (run {} (some "v1.4.2".toList) fourSteps) =
      [⟨1, 5, 0⟩, ⟨2, 0, 0⟩] := by decide +kernel
  obtain ⟨hheld, _, hincreasing, _⟩ :=
    run_keeps_published hunblank (some "v1.4.2".toList) fourSteps
  refine ⟨hunblank, hpublished, hincreasing, ?_⟩
  have hlast := hheld 4
  rwa [take_run, show fourSteps.take 4 = fourSteps from rfl, hpublished] at hlast

end NextRelease.Train
