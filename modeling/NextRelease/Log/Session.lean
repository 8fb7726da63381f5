import NextRelease.Log.Channel

/-!
# Log sessions

A session starts with a configuration that asks for nothing. After that it is configured anew or
events happen. Every configuration takes the next stream, so each stream belongs to one of them.
-/

namespace NextRelease

namespace Log

inductive Action
  | configure (options : Options)
  | emit (events : List Event)

/-- A channel with the number of streams that were used. -/
structure Session where
  channel : Channel := {}
  streams : Nat := 0
  deriving DecidableEq, Repr

/-- What the handlers write during an action. -/
abbrev Output := List (Handler × List Event)

namespace Session

/-- The session after a configuration, which takes the next stream. -/
def configure (session : Session) (options : Options) : Session where
  channel := session.channel.configure options session.streams
  streams := session.streams + 1

/-- The session after an action, and what is written during it. -/
def advance (shows : Display) (session : Session) : Action → Session × Output
  | .configure options => (session.configure options, [])
  | .emit events => (session, session.channel.written shows events)

/-- The session after the first configuration, which asks for nothing. -/
def start : Session := configure {} {}

/-- The sessions after each action, with what is written during it. -/
def runWith (shows : Display) (session : Session) : List Action → List (Session × Output)
  | [] => []
  | action :: rest =>
    let (next, output) := session.advance shows action
    (next, output) :: runWith shows next rest

def run (session : Session) (actions : List Action) : List (Session × Output) :=
  session.runWith Form.shows actions

end Session

end Log

end NextRelease
