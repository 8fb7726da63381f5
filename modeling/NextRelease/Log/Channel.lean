import NextRelease.Log.Line

/-!
# Log channels

Events go through the logger at the root of this library's loggers: to each of its handlers, if
they reach the threshold. Configuring takes away the handler that an earlier configuration left
and installs a new one, so handlers never pile up. Which events a handler can show in its form is
left open to the renderers behind it.
-/

namespace NextRelease

open Text

namespace Log

/-- How a handler writes events. -/
inductive Form
  | console (colored : Bool)
  | record
  deriving DecidableEq, Repr

/-- Which events the renderers behind the forms show. -/
abbrev Display := Form → Event → Bool

/-- Records show every event, and a console one whose stack and exception are texts. -/
def Form.shows : Display
  | .record, _ => true
  | .console _, event => event.trace?.isSome

structure Handler where
  name : Text
  /-- The number of the stream that is written to. -/
  stream : Nat
  form : Form
  deriving DecidableEq, Repr

/-- The logger at the root of this library's loggers. -/
structure Channel where
  handlers : List Handler := []
  /-- Events below this level are dropped. -/
  threshold : Level := .warning
  /-- Events are also handed to loggers above. -/
  propagates : Bool := true
  deriving DecidableEq, Repr

/-- What a configuration asks for. -/
structure Options where
  verbose : Bool := false
  quiet : Bool := false
  /-- Write records instead of console lines. -/
  records : Bool := false
  terminal : Bool := false
  deriving DecidableEq, Repr

/-- The threshold that is asked for; quiet wins over verbose. -/
def Options.threshold (options : Options) : Level :=
  if options.quiet then .warning else if options.verbose then .debug else .info

def Options.handler (options : Options) (stream : Nat) : Handler where
  name := Event.namespaceName
  stream := stream
  form := if options.records then .record else .console options.terminal

namespace Channel

/-- The handler is one that a configuration installed. -/
def isInstalled (handler : Handler) : Bool := handler.name = Event.namespaceName

def configure (channel : Channel) (options : Options) (stream : Nat) : Channel where
  handlers := channel.handlers.filter (!isInstalled ·) ++ [options.handler stream]
  threshold := options.threshold
  propagates := false

/-- The event is written: it goes through the channel and reaches the threshold. -/
def admits (channel : Channel) (event : Event) : Bool :=
  event.isOwn && channel.threshold.rank ≤ event.level.rank

/-- What each handler writes when the events happen, handlers that write nothing left out. -/
def written (channel : Channel) (shows : Display) (events : List Event) :
    List (Handler × List Event) :=
  let admitted := events.filter channel.admits
  channel.handlers.filterMap fun handler =>
    match admitted.filter (shows handler.form) with
    | [] => none
    | shown => some (handler, shown)

/-- The number of handlers that configurations left. -/
def installedCount (channel : Channel) : Nat := channel.handlers.countP isInstalled

theorem installedCount_configure (channel : Channel) (options : Options) (stream : Nat) :
    (channel.configure options stream).installedCount = 1 := by
  simp [installedCount, configure, List.countP_append, List.countP_filter, isInstalled,
    Options.handler]

end Channel

end Log

end NextRelease
