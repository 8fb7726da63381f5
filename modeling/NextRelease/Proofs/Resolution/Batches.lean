import NextRelease.Proofs.Resolution.Append
import NextRelease.Proofs.Resolution.Train

/-!
# Releasing in batches

Messages that are released in batches, one batch after the other, raise the version by the increment
of every batch, while a single release of all messages raises it by the strongest of these
increments alone. So batches never end below the single release, and of the major component they
take one step for every batch with a breaking change instead of one in all.

The invariant is `StandsAt`: the tag that a train holds is read as the version it has reached, which
is also the base version of its last answer. A release moves this version by its increment
(`standsAt_advance`), whether it publishes a tag or has only blank messages, so a run moves it by
the increments of its steps (`standsAt_run`).
-/

namespace NextRelease

open Text

/-! ## The increment of some messages -/

/-- The strongest increment that one of the messages asks for. -/
def messagesIncrement (messages : List Text) : Increment :=
  (Counts.ofCommits (classifyAll messages)).incrementIfAny

/-- One of the messages announces a breaking change. -/
def hasBreaking (messages : List Text) : Bool :=
  messages.any fun message => classify message = .breaking

theorem messagesIncrement_flatten (batches : List (List Text)) :
    messagesIncrement batches.flatten = (batches.map messagesIncrement).foldr max .none := by
  induction batches with
  | nil => rfl
  | cons messages rest ih =>
    rw [List.flatten_cons, List.map_cons, List.foldr_cons, ← ih, messagesIncrement,
      classifyAll_append, Counts.incrementIfAny_append]
    rfl

theorem messagesIncrement_eq_major_iff {messages : List Text} :
    messagesIncrement messages = .major ↔ hasBreaking messages = true := by
  rw [messagesIncrement, Counts.incrementIfAny_eq_major_iff, Counts.get_ofCommits_pos]
  simp only [hasBreaking, List.any_eq_true, decide_eq_true_eq]
  constructor
  · rintro ⟨commit, hcommit, hbreaking⟩
    obtain ⟨message, hmessage, rfl⟩ := List.mem_map.mp hcommit
    exact ⟨message, (List.mem_filter.mp hmessage).1, hbreaking⟩
  · rintro ⟨message, hmessage, hbreaking⟩
    -- A blank message counts as other, so it announces nothing.
    have htext : allBlank message = false := by
      rw [← Bool.not_eq_true]
      intro hblank
      simp [classify, hblank] at hbreaking
    exact ⟨⟨message, classify message⟩,
      List.mem_map_of_mem (List.mem_filter.mpr ⟨hmessage, by simp [htext]⟩), hbreaking⟩

theorem count_major_map (batches : List (List Text)) :
    (batches.map messagesIncrement).count .major = batches.countP hasBreaking := by
  rw [List.count, List.countP_map]
  refine List.countP_congr fun messages _ => ?_
  simp [messagesIncrement_eq_major_iff]

theorem hasBreaking_flatten (batches : List (List Text)) :
    hasBreaking batches.flatten = batches.any hasBreaking := by
  simp only [hasBreaking, List.any_flatten]
  rfl

theorem resolve_baseVersion {request : Request} {resolution : Resolution}
    (h : resolve request = .ok resolution) :
    resolution.increment = messagesIncrement request.messages ∧
      resolution.baseVersion =
        resolution.previousVersion.after (messagesIncrement request.messages) := by
  obtain ⟨hincrement, hbase⟩ := resolve_increment h
  rw [(resolve_commits h).2.1] at hincrement
  rw [hincrement] at hbase
  exact ⟨hincrement, hbase⟩

namespace Train

/-! ## The version that a train has reached -/

variable {settings : Settings} {start : Option Text}

/-- After some outcomes the held tag is read as this version, and so says the last answer. -/
structure StandsAt (settings : Settings) (start : Option Text) (outcomes : Outcomes)
    (version : Version) : Prop where
  held : ∃ advisory,
    readTag settings.tagPrefix (tagHeld start outcomes) = .ok ⟨version, advisory⟩
  last : ∀ resolution, outcomes.getLast?.map (·.1) = some (.ok resolution) →
    resolution.baseVersion = version

/-- A release moves the version by the increment of its messages. -/
theorem standsAt_advance (h : StartsUnblank settings.tagPrefix) {outcomes : Outcomes}
    {version : Version} (hstands : StandsAt settings start outcomes version) {step : Step}
    (hrelease : step.context.scenario = .release) {resolution : Resolution}
    (hresolve : resolve (step.request settings (tagHeld start outcomes)) = .ok resolution) :
    StandsAt settings start (outcomes ++ [advance settings (tagHeld start outcomes) step])
      (version.after (messagesIncrement step.messages)) := by
  obtain ⟨advisory, hheld⟩ := hstands.held
  obtain ⟨reading, hreading, hprevious, _⟩ := resolve_reading hresolve
  obtain rfl : reading = ⟨version, advisory⟩ := Except.ok.inj (hreading.symm.trans hheld)
  have hincrement : resolution.increment = messagesIncrement step.messages :=
    (resolve_baseVersion hresolve).1
  have hbase : resolution.baseVersion = version.after (messagesIncrement step.messages) := by
    rw [(resolve_baseVersion hresolve).2, hprevious]
    rfl
  have houtcome : (advance settings (tagHeld start outcomes) step).1 = .ok resolution := hresolve
  refine ⟨?_, ?_⟩
  · rw [tagHeld_concat]
    by_cases hnone : resolution.increment = .none
    · -- Nothing is published, and the version stays as it is.
      have hpublished : publishedBy (advance settings (tagHeld start outcomes) step).1 = none := by
        simp [houtcome, publishedBy, publishes, hnone]
      rw [advance_of_not_publishedBy hpublished, ← hincrement, hnone]
      exact ⟨advisory, hheld⟩
    · have hscenario : resolution.scenario = .release := (resolve_scenario hresolve).trans hrelease
      have hpublished : publishedBy (advance settings (tagHeld start outcomes) step).1 =
          some resolution.baseVersion := by
        simp [houtcome, publishedBy, publishes, hnone, hscenario]
      rw [← hbase]
      exact ⟨none, readTag_advance h hpublished⟩
  · intro answer hanswer
    rw [List.getLast?_concat, Option.map_some, houtcome] at hanswer
    obtain rfl := Except.ok.inj (Option.some.inj hanswer)
    exact hbase

/-- A run of releases moves the version by the increments of its steps. -/
theorem standsAt_run (h : StartsUnblank settings.tagPrefix) {version : Version}
    {advisory : Option TagAdvisory}
    (hstart : readTag settings.tagPrefix start = .ok ⟨version, advisory⟩) {steps : List Step}
    (hrelease : ∀ step ∈ steps, step.context.scenario = .release)
    (hall : ∀ entry ∈ run settings start steps, ∃ resolution, entry.1 = .ok resolution) :
    StandsAt settings start (run settings start steps)
      (version.afterAll (steps.map fun step => messagesIncrement step.messages)) := by
  -- Forward induction: the last step starts from the tag that the steps before it hold.
  induction steps using List.reverseRecOn with
  | nil => exact ⟨⟨advisory, hstart⟩, by simp [run]⟩
  | append_singleton steps step ih =>
    rw [run_concat] at hall ⊢
    simp only [List.forall_mem_append, List.forall_mem_singleton] at hrelease hall
    obtain ⟨resolution, hresolve⟩ := hall.2
    have hstep := standsAt_advance h (ih hrelease.1 hall.1) hrelease.2 hresolve
    simpa [Version.afterAll] using hstep

/-! ## Batches and a single release -/

/-- The releases of some batches of messages, one after the other in one context. -/
def releases (context : BuildContext) (batches : List (List Text)) : List Step :=
  batches.map fun messages => ⟨messages, context⟩

/--
Releasing messages in batches ends at a version that is at least that of a single release of all of
them from the same tag, as long as every release and the single one give an answer and the prefix of
tags begins with no blank. The batches raise the major component of the first version by one for
each batch with a breaking change, and the single release raises it once if there is any.
-/
theorem single_le_batches (h : StartsUnblank settings.tagPrefix) {context : BuildContext}
    (hrelease : context.scenario = .release) {tag : Option Text} {batches : List (List Text)}
    (hall : ∀ entry ∈ run settings tag (releases context batches),
      ∃ resolution, entry.1 = .ok resolution)
    {single : Resolution}
    (hsingle : resolve ⟨tag, batches.flatten, context, settings⟩ = .ok single) :
    ∃ first reached,
      StandsAt settings tag [] first ∧
        StandsAt settings tag (run settings tag (releases context batches)) reached ∧
        single.baseVersion ≤ reached ∧
        reached.major = first.major + batches.countP hasBreaking ∧
        single.baseVersion.major = first.major + if batches.any hasBreaking then 1 else 0 := by
  obtain ⟨⟨first, advisory⟩, hreading, hprevious, _⟩ := resolve_reading hsingle
  have hsteps : ∀ step ∈ releases context batches, step.context.scenario = .release := by
    intro step hstep
    obtain ⟨messages, _, rfl⟩ := List.mem_map.mp hstep
    exact hrelease
  have hincrements : (releases context batches).map (fun step => messagesIncrement step.messages) =
      batches.map messagesIncrement := by
    rw [releases, List.map_map]
    rfl
  have hreached := standsAt_run h hreading hsteps hall
  rw [hincrements] at hreached
  have hbase : single.baseVersion = first.after (messagesIncrement batches.flatten) := by
    rw [(resolve_baseVersion hsingle).2, hprevious]
  refine ⟨first, _, ⟨⟨advisory, hreading⟩, by simp⟩, hreached, ?_, ?_, ?_⟩
  · rw [hbase, messagesIncrement_flatten]
    exact Version.after_foldr_max_le_afterAll first _
  · rw [Version.major_afterAll, count_major_map]
  · rw [hbase, Version.major_after]
    simp only [messagesIncrement_eq_major_iff, hasBreaking_flatten]

/-- Two breaking changes in batches of their own, with a blank batch and a feature between them. -/
def twoBreaking : List (List Text) :=
  [["fix!: a".toList], [" ".toList], ["fix: b".toList, "feat: c".toList], ["feat!: d".toList]]

theorem twoBreaking_batches : ∃ single reached,
    StandsAt {} (some "v1.4.2".toList)
        (run {} (some "v1.4.2".toList) (releases emptyRelease.context twoBreaking)) reached ∧
      resolve ⟨some "v1.4.2".toList, twoBreaking.flatten, emptyRelease.context, {}⟩ = .ok single ∧
      single.baseVersion = ⟨2, 0, 0⟩ ∧ single.baseVersion ≤ reached ∧ reached.major = 3 := by
  have hversions : (run {} (some "v1.4.2".toList) (releases emptyRelease.context twoBreaking)).map
      (fun entry => entry.1.toOption.map (·.baseVersion)) =
        [some ⟨2, 0, 0⟩, some ⟨2, 0, 0⟩, some ⟨2, 1, 0⟩, some ⟨3, 0, 0⟩] := by decide +kernel
  have hall : ∀ entry ∈ run {} (some "v1.4.2".toList) (releases emptyRelease.context twoBreaking),
      ∃ resolution, entry.1 = .ok resolution := by
    rintro ⟨outcome, next⟩ hentry
    cases outcome with
    | ok resolution => exact ⟨resolution, rfl⟩
    | error failure =>
      have hmem := List.mem_map_of_mem
        (f := fun entry => entry.1.toOption.map (·.baseVersion)) hentry
      rw [hversions] at hmem
      simp [Except.toOption] at hmem
  obtain ⟨single, hsingle, hbase⟩ : ∃ single,
      resolve ⟨some "v1.4.2".toList, twoBreaking.flatten, emptyRelease.context, {}⟩ = .ok single ∧
        single.baseVersion = ⟨2, 0, 0⟩ := ⟨_, rfl, rfl⟩
  obtain ⟨first, reached, hfirst, hreached, hle, hmajor, hsingleMajor⟩ :=
    single_le_batches (by decide) rfl hall hsingle
  refine ⟨single, reached, hreached, hsingle, hbase, hle, ?_⟩
  have hany : (if twoBreaking.any hasBreaking then 1 else 0) = 1 := by decide
  have hcount : twoBreaking.countP hasBreaking = 2 := by decide
  rw [hany, hbase] at hsingleMajor
  rw [hmajor, hcount, ← Nat.succ.inj hsingleMajor]

end Train

end NextRelease
