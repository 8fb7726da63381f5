import NextRelease.Log.Session
import NextRelease.Proofs.Resolution.Events

/-!
# Where events are written

A channel is configured, resolutions report what they do, and loggers are given events, in any
order and as often as one likes. What the channel is after that depends on nothing but the latest
configuration and the handlers that other hands attached (`foldl_after`): a configuration takes its
predecessor's handler away, so no event is written twice, and none goes to a stream that was given
up. On a channel that nobody else attached a handler to, each event is written to the latest stream
if it reaches the latest threshold, and else nowhere.
-/

namespace NextRelease.Log

/-! ## Calls -/

inductive Call
  | configure (options : Options) (stream : Nat)
  | resolve (request : Request)
  /-- Events that loggers are given, one after the other. -/
  | log (events : List Event)

namespace Call

/-- The events that happen during a call. -/
def events : Call → List Event
  | configure _ _ => []
  | resolve request => request.events
  | log events => events

/-- What a configuration asks for, with its stream. -/
def configuration? : Call → Option (Options × Nat)
  | configure options stream => some (options, stream)
  | resolve _ => none
  | log _ => none

/-- The latest configuration among some calls. -/
def latest? (calls : List Call) : Option (Options × Nat) :=
  (calls.filterMap configuration?).getLast?

/-- The events go through this library's loggers, and the handler can show them. -/
def IsPassedOn (shows : Display) (handler : Handler) (call : Call) : Prop :=
  ∀ event ∈ call.events, event.isOwn = true ∧ shows handler.form event = true

theorem latest?_append_singleton (calls : List Call) (call : Call) :
    latest? (calls ++ [call]) = call.configuration?.or (latest? calls) := by
  unfold latest?
  cases hcall : call.configuration? with
  | none => simp [hcall]
  | some configuration => simp [hcall]

/-- Resolutions log through a logger of this library, and only what every handler can show. -/
theorem isPassedOn_resolve (handler : Handler) (request : Request) :
    (resolve request).IsPassedOn Form.shows handler := by
  intro event hevent
  obtain ⟨hlogger, htrace⟩ := Request.isPlain_of_mem_events hevent
  constructor
  · rw [Event.isOwn, hlogger]
    decide
  · cases handler.form with
    | console colored => exact (congrArg Option.isSome htrace).trans rfl
    | record => rfl

end Call

/-- What is written to a stream. -/
def eventsOn (stream : Nat) (output : Output) : List Event :=
  (output.filter (·.1.stream = stream)).flatMap (·.2)

namespace Channel

/-- The channel after a call. -/
def after (channel : Channel) : Call → Channel
  | .configure options stream => channel.configure options stream
  | .resolve _ => channel
  | .log _ => channel

/-- The channels after each call, with what is written during it. -/
def run (shows : Display) (channel : Channel) : List Call → List (Channel × Output)
  | [] => []
  | call :: rest =>
    (channel.after call, channel.written shows call.events) :: run shows (channel.after call) rest

/-- The handlers that no configuration installed. -/
def foreign (channel : Channel) : List Handler := channel.handlers.filter (!isInstalled ·)

variable {shows : Display}

/-! ## One call -/

theorem written_nil (channel : Channel) : channel.written shows [] = [] := by
  simp [written]

/-- Nothing happens during a configuration, so it is one channel that writes during a call. -/
theorem written_after (channel : Channel) (call : Call) :
    (channel.after call).written shows call.events = channel.written shows call.events := by
  cases call with
  | configure options stream => exact (written_nil _).trans (written_nil _).symm
  | resolve request => rfl
  | log events => rfl

theorem foreign_after (channel : Channel) (call : Call) :
    (channel.after call).foreign = channel.foreign := by
  cases call with
  | configure options stream =>
    simp [after, foreign, configure, List.filter_append, isInstalled, Options.handler]
  | resolve request => rfl
  | log events => rfl

/-- Each handler writes to its stream what is admitted and what it can show. -/
theorem eventsOn_written (channel : Channel) (events : List Event) (stream : Nat) :
    eventsOn stream (channel.written shows events) =
      (channel.handlers.filter (·.stream = stream)).flatMap fun handler =>
        (events.filter channel.admits).filter (shows handler.form) := by
  unfold eventsOn written
  generalize events.filter channel.admits = admitted
  induction channel.handlers with
  | nil => rfl
  | cons handler rest ih =>
    cases hshown : admitted.filter (shows handler.form) with
    | nil => by_cases hstream : handler.stream = stream <;> simp [hshown, hstream, ih]
    | cons event more => by_cases hstream : handler.stream = stream <;> simp [hshown, hstream, ih]

/-! ## Runs -/

theorem foreign_foldl (channel : Channel) (calls : List Call) :
    (calls.foldl after channel).foreign = channel.foreign := by
  induction calls generalizing channel with
  | nil => rfl
  | cons call rest ih =>
    rw [List.foldl_cons, ih, foreign_after]

/-- After some calls a channel is what the latest configuration made of it. -/
theorem foldl_after (channel : Channel) {calls : List Call} {options : Options} {stream : Nat}
    (h : Call.latest? calls = some (options, stream)) :
    calls.foldl after channel =
      ⟨channel.foreign ++ [options.handler stream], options.threshold, false⟩ := by
  induction calls using List.reverseRecOn with
  | nil => cases h
  | append_singleton calls call ih =>
    rw [Call.latest?_append_singleton] at h
    rw [List.foldl_append, List.foldl_cons, List.foldl_nil]
    cases call with
    | configure newOptions newStream =>
      cases h
      rw [← foreign_foldl channel calls]
      rfl
    | resolve request => exact ih h
    | log events => exact ih h

theorem getElem?_run (channel : Channel) (calls : List Call) (n : Nat) :
    (channel.run shows calls)[n]? = calls[n]?.map fun call =>
      ((calls.take (n + 1)).foldl after channel,
        ((calls.take (n + 1)).foldl after channel).written shows call.events) := by
  induction calls generalizing channel n with
  | nil => rfl
  | cons call rest ih =>
    cases n with
    | zero => simp [run, written_after]
    | succ n => simp [run, ih]

end Channel

/-- A session is a run in which each configuration takes the next stream. -/
def Action.calls (streams : Nat) : List Action → List Call
  | [] => []
  | .configure options :: rest => .configure options streams :: calls (streams + 1) rest
  | .emit events :: rest => .log events :: calls streams rest

theorem Session.map_runWith (shows : Display) (session : Session) (actions : List Action) :
    (session.runWith shows actions).map (fun step => (step.1.channel, step.2)) =
      session.channel.run shows (Action.calls session.streams actions) := by
  induction actions generalizing session with
  | nil => rfl
  | cons action rest ih =>
    cases action with
    | configure options =>
      simp [runWith, advance, configure, Action.calls, Channel.run, Channel.after, Call.events,
        Channel.written_nil, ih]
    | emit events =>
      simp [runWith, advance, Action.calls, Channel.run, Channel.after, Call.events, ih]

/-! ## Routing -/

namespace Channel

/-- A channel with one handler writes what reaches the threshold to its stream, and only there. -/
theorem eventsOn_written_of_handlers_eq {shows : Display} {channel : Channel} {handler : Handler}
    {call : Call} (hhandlers : channel.handlers = [handler])
    (hpassed : call.IsPassedOn shows handler) (stream : Nat) :
    eventsOn stream (channel.written shows call.events) =
      if stream = handler.stream then
        call.events.filter (channel.threshold.rank ≤ ·.level.rank)
      else [] := by
  have hadmitted : (call.events.filter channel.admits).filter (shows handler.form) =
      call.events.filter (channel.threshold.rank ≤ ·.level.rank) := by
    rw [List.filter_filter]
    refine List.filter_congr fun event hevent => ?_
    obtain ⟨hown, hshows⟩ := hpassed event hevent
    rw [hshows, admits, hown, Bool.true_and, Bool.true_and]
  rw [eventsOn_written, hhandlers]
  by_cases hstream : stream = handler.stream
  · have hself : [handler].filter (·.stream = stream) = [handler] := by simp [hstream]
    rw [hself, List.flatMap_singleton, if_pos hstream, hadmitted]
  · have hother : [handler].filter (·.stream = stream) = [] := by simp [Ne.symm hstream]
    rw [hother, List.flatMap_nil, if_neg hstream]

theorem installedCount_of_handlers_eq {channel start : Channel} {options : Options} {stream : Nat}
    (h : channel.handlers = start.foreign ++ [options.handler stream]) :
    channel.installedCount = 1 := by
  have hforeign : start.foreign.countP isInstalled = 0 := by
    simp [foreign, List.countP_filter]
  rw [installedCount, h, List.countP_append, hforeign]
  rfl

/-- From the first configuration on there is a latest one. -/
theorem exists_latest? {calls : List Call} {n : Nat}
    (h : ∃ options stream, calls.head? = some (.configure options stream)) :
    ∃ options stream, Call.latest? (calls.take (n + 1)) = some (options, stream) := by
  obtain ⟨options, stream, hhead⟩ := h
  obtain ⟨rest, rfl⟩ : ∃ rest, calls = .configure options stream :: rest := by
    cases calls with
    | nil => cases hhead
    | cons call rest => exact ⟨rest, by rw [Option.some.inj hhead]⟩
  have hsome : (Call.latest? ((Call.configure options stream :: rest).take (n + 1))).isSome := by
    simp [Call.latest?, Call.configuration?]
  obtain ⟨⟨newOptions, newStream⟩, hlatest⟩ := Option.isSome_iff_exists.mp hsome
  exact ⟨newOptions, newStream, hlatest⟩

end Channel

/--
A run that starts with a configuration. After each call the channel has one handler that bears the
name of the library, next to those that other hands attached. It writes to the stream of the latest
configuration, whose flags decide the threshold. If nobody else attached a handler, the events that
reach the threshold during the call are written to this stream, each once and in order, and nothing
is written anywhere else, as long as the renderers show them. Those of consoles and records always
show the events of a resolution, and those of one that gives an answer are the report of this
answer.
-/
theorem run_routes {shows : Display} {start : Channel} {calls : List Call}
    (hfirst : ∃ options stream, calls.head? = some (.configure options stream)) :
    (∀ n call, calls[n]? = some call → ∃ options stream channel output handler,
      Call.latest? (calls.take (n + 1)) = some (options, stream) ∧
      (start.run shows calls)[n]? = some (channel, output) ∧
      channel.handlers = start.foreign ++ [handler] ∧ channel.installedCount = 1 ∧
      handler.name = Event.namespaceName ∧ handler.stream = stream ∧
      channel.threshold =
        (if options.quiet then .warning else if options.verbose then .debug else .info) ∧
      channel.propagates = false ∧
      (start.foreign = [] → call.IsPassedOn shows handler → ∀ other, eventsOn other output =
        if other = stream then call.events.filter (channel.threshold.rank ≤ ·.level.rank)
        else [])) ∧
    (∀ request handler, (Call.resolve request).IsPassedOn Form.shows handler) ∧
    ∀ request resolution, resolve request = .ok resolution →
      (Call.resolve request).events = resolution.report request := by
  refine ⟨fun n call hcall => ?_, fun request handler => Call.isPassedOn_resolve handler request,
    fun request resolution hresolve => events_of_resolve hresolve⟩
  obtain ⟨options, stream, hlatest⟩ := Channel.exists_latest? (n := n) hfirst
  have hstep : (start.run shows calls)[n]? = _ := Channel.getElem?_run start calls n
  rw [hcall, Channel.foldl_after start hlatest] at hstep
  refine ⟨options, stream, _, _, options.handler stream, hlatest, hstep, rfl,
    Channel.installedCount_of_handlers_eq rfl, rfl, rfl, rfl, rfl, ?_⟩
  intro hforeign hpassed other
  exact Channel.eventsOn_written_of_handlers_eq (by rw [hforeign]; rfl) hpassed other

/-- A release of one feature after a tag that stands for no version. -/
def afterUnreadTag : Request where
  lastTag := some "latest".toList
  messages := ["feat: a".toList]
  context :=
    { currentBranch := ['d'], defaultBranch := ['d'], shortRevision := "abc".toList,
      isReleaseRequested := true }

/-- The release is followed on one stream, and again, with only its warnings, on another. -/
def twoStreams : List Call := [
  .configure { verbose := true } 0, .resolve afterUnreadTag,
  .configure { quiet := true, records := true } 1, .resolve afterUnreadTag]

theorem twoStreams_routes :
    ∃ resolution, resolve afterUnreadTag = .ok resolution ∧
      (∃ channel output, (({} : Channel).run Form.shows twoStreams)[1]? = some (channel, output) ∧
        eventsOn 0 output =
          [afterUnreadTag.tagWarning, afterUnreadTag.countsReport, resolution.versionReport] ∧
        eventsOn 1 output = []) ∧
      ∃ channel output, (({} : Channel).run Form.shows twoStreams)[3]? = some (channel, output) ∧
        eventsOn 0 output = [] ∧ eventsOn 1 output = [afterUnreadTag.tagWarning] := by
  obtain ⟨hsteps, hpassed, hreport⟩ := @run_routes Form.shows {} twoStreams ⟨_, _, rfl⟩
  obtain ⟨resolution, hresolve, hadvisory⟩ : ∃ resolution,
      resolve afterUnreadTag = .ok resolution ∧ resolution.advisories ≠ [] :=
    ⟨_, rfl, List.cons_ne_nil _ _⟩
  have hevents := hreport _ _ hresolve
  rw [Resolution.report, if_neg hadvisory] at hevents
  refine ⟨resolution, hresolve, ?_, ?_⟩
  · obtain ⟨_, _, channel, output, handler, hlatest, hstep, _, _, _, _, hthreshold, _, hwritten⟩ :=
      hsteps 1 _ rfl
    cases hlatest
    refine ⟨channel, output, hstep, ?_, hwritten rfl (hpassed _ _) 1⟩
    rw [hwritten rfl (hpassed _ _) 0, hevents, hthreshold]
    simp [Level.rank]
  · obtain ⟨_, _, channel, output, handler, hlatest, hstep, _, _, _, _, hthreshold, _, hwritten⟩ :=
      hsteps 3 _ rfl
    cases hlatest
    refine ⟨channel, output, hstep, hwritten rfl (hpassed _ _) 0, ?_⟩
    rw [hwritten rfl (hpassed _ _) 1, hevents, hthreshold]
    simp [Level.rank]

end NextRelease.Log
