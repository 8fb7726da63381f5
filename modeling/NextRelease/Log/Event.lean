import NextRelease.Value

/-!
# Log events

An event has a level, the name of the logger it goes through, a name of its own, and fields.
Logger names form a hierarchy by dots; the events of this library go through loggers below
`Event.namespaceName`.
-/

namespace NextRelease

open Text

inductive Level
  | debug | info | warning | error | critical
  deriving DecidableEq, Repr

namespace Level

def rank : Level → Nat
  | debug => 10
  | info => 20
  | warning => 30
  | error => 40
  | critical => 50

def name : Level → Text
  | debug => "debug".toList
  | info => "info".toList
  | warning => "warning".toList
  | error => "error".toList
  | critical => "critical".toList

def thresholdName : Level → Text
  | debug => "DEBUG".toList
  | info => "INFO".toList
  | warning => "WARNING".toList
  | error => "ERROR".toList
  | critical => "CRITICAL".toList

def all : List Level := [debug, info, warning, error, critical]

end Level

structure Event where
  level : Level
  /-- The name of the logger it goes through. -/
  logger : Text
  name : Text
  fields : List (Text × Value) := []

namespace Event

/-- The logger at the root of this library's loggers. -/
def namespaceName : Text := "versionkit".toList

def resolverName : Text := namespaceName ++ ".resolver".toList

def settingsName : Text := namespaceName ++ ".config".toList

/-- The logger is the root of this library's loggers or below it. -/
def isOwn (event : Event) : Bool :=
  event.logger = namespaceName || (namespaceName ++ ['.']).isPrefixOf event.logger

end Event

end NextRelease
