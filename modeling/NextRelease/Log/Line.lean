import NextRelease.Log.Event
import NextRelease.Sorting
import NextRelease.Text.Numeral
import NextRelease.Text.Quoted

/-!
# Log lines

An event takes a line on a console: time, level, name, logger, and the fields in the order of their
keys. A text in a field stands as it is unless that would be ambiguous; every other value, and an
ambiguous text, is shown in quoted form. Some fields have a place of their own: the field without a
name comes before everything, the name of another logger after the logger, and a stack and an
exception take the lines below.
-/

namespace NextRelease

open Text

mutual

def Value.shown : Value → Text
  | .null => "None".toList
  | .boolean truth => if truth then "True".toList else "False".toList
  | .integer number => signedDecimal number
  | .fraction spelling => spelling
  | .text content => quoted content
  | .date spelling => spelling
  | .time spelling => spelling
  | .moment spelling => spelling
  | .array items => '[' :: join ", ".toList (Value.shownItems items) ++ [']']
  | .table entries => '\x7b' :: join ", ".toList (Value.shownEntries entries) ++ ['\x7d']

def Value.shownItems : List Value → List Text
  | [] => []
  | item :: rest => item.shown :: Value.shownItems rest

def Value.shownEntries : List (Text × Value) → List Text
  | [] => []
  | (key, value) :: rest => (quoted key ++ ": ".toList ++ value.shown) :: Value.shownEntries rest

end

/-- A value without quotes around a text. -/
def Value.plain : Value → Text
  | .text content => content
  | value => value.shown

namespace Event

/-- A text that holds one of these characters would be ambiguous in a line of fields. -/
def ambiguous : Text := [' ', '\t', '=', '\r', '\n', '"', '\'']

def fieldText : Value → Text
  | .text content => if content.any ambiguous.contains then quoted content else content
  | value => value.shown

/-- The keys that an event fills in itself, or that its way to a handler makes use of. -/
def ownKeys : List Text :=
  ["event".toList, "level".toList, "logger".toList, "timestamp".toList, "_record".toList,
    "_from_structlog".toList]

/-- The fields that the caller gave, in the order of their keys. -/
def sortedFields (event : Event) : List (Text × Value) :=
  sortBy (fun a b => precedes a.1 b.1)
    (event.fields.filter fun field => !ownKeys.contains field.1)

def keyedText (field : Text × Value) : Text := field.1 ++ '=' :: fieldText field.2

/-- The key of the field that names another logger. -/
def otherLoggerKey : Text := "logger_name".toList

/-- The keys of the fields that have a place of their own on a console. -/
def placedKeys : List Text :=
  [[], otherLoggerKey, "stack".toList, "exception".toList, "exc_info".toList]

/-- The first line of an event that happened at the given time. -/
def headLine (time : Text) (event : Event) : Text :=
  let placed (key : Text) := event.sortedFields.filter fun field => field.1 = key
  let columns :=
    (placed []).map keyedText ++
    [time, '[' :: padRight 9 event.level.name ++ "]".toList, padRight 30 event.name,
      '[' :: event.logger ++ "]".toList] ++
    (placed otherLoggerKey).map (fun field => '[' :: field.2.plain ++ "]".toList) ++
    (event.sortedFields.filter fun field => !placedKeys.contains field.1).map keyedText
  join " ".toList columns

/-- The text of a field that may be absent; there is none if the field is not a text. -/
def textField? (key : Text) (event : Event) : Option (Option Text) :=
  match event.fields.lookup key with
  | none => some none
  | some .null => some none
  | some (.text content) => some (some content)
  | some _ => none

/-- The line between a stack and an exception. -/
def traceSeparator : Text := "\n\n".toList ++ List.replicate 79 '=' ++ "\n".toList

/--
What stands below the first line: the stack, and the exception, separated from it. The separator
is also there if the exception is only announced.
-/
def trace? (event : Event) : Option Text := do
  let stack ← event.textField? "stack".toList
  let exception ← event.textField? "exception".toList
  let announced := (event.fields.lookup "exc_info".toList).any Value.affirms
  let separator := if exception.isSome || announced then traceSeparator else []
  return (stack.map fun text => '\n' :: text ++ separator).getD [] ++
    (exception.map fun text => '\n' :: text).getD []

/-- What a console shows of an event; nothing if its stack or exception is not a text. -/
def consoleText? (time : Text) (event : Event) : Option Text := do
  return event.headLine time ++ (← event.trace?) ++ "\n".toList

/-- Everything an event says, for readers of structured logs. -/
def record (event : Event) : List (Text × Value) :=
  event.sortedFields ++ [
    ("event".toList, .text event.name),
    ("level".toList, .text event.level.name),
    ("logger".toList, .text event.logger)]

end Event

end NextRelease
