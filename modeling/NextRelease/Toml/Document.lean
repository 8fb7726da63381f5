import NextRelease.Toml.Literal
import NextRelease.Toml.Node

/-!
# TOML documents

A document is a list of statements, one on a line: a dotted key with its value, or the header of a
table. A header says where the following keys belong. Inside the brackets of arrays and inline
tables newlines, comments and a comma at the end are allowed. Neither these nor dotted keys go
deeper than `depthLimit`. A header that continues the header before it, or one that this continues
in turn, belongs to the open table of that header; any other one starts at the top again.
-/

namespace NextRelease.Toml

open Text

/-- The text without spaces and tabs at its start. -/
def skipSpace (text : Text) : Text := text.dropWhile fun c => c = ' ' || c = '\t'

/-- The text after a comment whose `#` has been taken; a control character spoils it. -/
def skipComment? (text : Text) : Option Text :=
  if (text.takeWhile (· ≠ '\n')).any isControl then none else some (text.dropWhile (· ≠ '\n'))

/-- The text after spaces, newlines and comments; every step takes a character. -/
def skipLayout? : Nat → Text → Option Text
  | _, [] => some []
  | 0, _ => none
  | fuel + 1, c :: rest =>
    if c = ' ' ∨ c = '\t' ∨ c = '\n' then skipLayout? fuel rest
    else if c = '#' then (skipComment? rest).bind (skipLayout? fuel)
    else some (c :: rest)

/-- The text after the rest of a line, which holds nothing but a comment. -/
def endLine? (text : Text) : Option Text :=
  match skipSpace text with
  | [] => some []
  | '\n' :: rest => some rest
  | '#' :: rest => skipComment? rest
  | _ => none

def isKeyChar (c : Char) : Bool :=
  ('a' ≤ c && c ≤ 'z') || ('A' ≤ c && c ≤ 'Z') || isAsciiDigit c || c = '_' || c = '-'

/-- One part of a dotted key, and what follows. -/
def keyPart? (text : Text) : Option (Text × Text) :=
  if text.head? = some '"' ∨ text.head? = some '\'' then lineString? text
  else
    let key := text.takeWhile isKeyChar
    if key = [] then none else some (key, text.dropWhile isKeyChar)

/-- The parts of a dotted key, with spaces around them, and what follows. -/
def keyParts? : Nat → Text → Option (List Text × Text)
  | 0, _ => none
  | fuel + 1, text => do
    let (key, rest) ← keyPart? (skipSpace text)
    match skipSpace rest with
    | '.' :: rest =>
      let (path, rest) ← keyParts? fuel rest
      return (key :: path, rest)
    | rest => return ([key], rest)

/-- How many arrays and inline tables may stand in one another, and how many parts a key may have. -/
def depthLimit : Nat := 100

def keyPath? (text : Text) : Option (List Text × Text) := keyParts? depthLimit text

def equals? : Text → Option Text
  | '=' :: rest => some (skipSpace rest)
  | _ => none

def endsScalar (c : Char) : Bool := [' ', '\t', '\n', '\r', '#', ',', ']', '\x7d'].contains c

/-- The scalar at the start of a text, and what follows; a blank may stand between date and time. -/
def scalarAtStart? (text : Text) : Option (Value × Text) :=
  let token := text.takeWhile (!endsScalar ·)
  let rest := text.dropWhile (!endsScalar ·)
  if isDate token then
    let time := rest.takeWhile fun c => c = ' ' || !endsScalar c
    let rest := rest.drop time.length
    let moment := token ++ trimRight time
    if moment = token then some (.date token, rest)
    else if isMoment moment then some (.moment moment, rest)
    else none
  else (scalar? token).map (·, rest)

mutual

/--
The value at the start of a text, and what follows. At most `room` arrays and inline tables may
stand in one another. At every second step at least one character is taken, so `fuel` may be twice
the length of the text.
-/
def value? : Nat → Nat → Text → Option (Value × Text)
  | 0, _, _ => none
  | fuel + 1, room, text =>
    match text, room with
    | '[' :: rest, room + 1 =>
      (items? fuel room rest).map fun (items, rest) => (.array items, rest)
    | '\x7b' :: rest, room + 1 => do
      let (fields, rest) ← fields? fuel room rest
      return (.table (← ofAssignments fields), rest)
    | 't' :: 'r' :: 'u' :: 'e' :: rest, _ => some (.boolean true, rest)
    | 'f' :: 'a' :: 'l' :: 's' :: 'e' :: rest, _ => some (.boolean false, rest)
    | c :: _, _ =>
      if c = '"' ∨ c = '\'' then (string? text).map fun (content, rest) => (.text content, rest)
      else scalarAtStart? text
    | [], _ => none

/-- The items of an array up to its closing bracket, and what follows. -/
def items? : Nat → Nat → Text → Option (List Value × Text)
  | 0, _, _ => none
  | fuel + 1, room, text => do
    match ← skipLayout? text.length text with
    | ']' :: rest => return ([], rest)
    | text =>
      let (item, rest) ← value? fuel room text
      match ← skipLayout? rest.length rest with
      | ',' :: rest =>
        let (items, rest) ← items? fuel room rest
        return (item :: items, rest)
      | ']' :: rest => return ([item], rest)
      | _ => none

/-- The fields of an inline table up to its closing brace, and what follows. -/
def fields? : Nat → Nat → Text → Option (List (List Text × Value) × Text)
  | 0, _, _ => none
  | fuel + 1, room, text => do
    match ← skipLayout? text.length text with
    | '\x7d' :: rest => return ([], rest)
    | text =>
      let (path, rest) ← keyPath? text
      let (content, rest) ← value? fuel room (← equals? rest)
      match ← skipLayout? rest.length rest with
      | ',' :: rest =>
        let (fields, rest) ← fields? fuel room rest
        return ((path, content) :: fields, rest)
      | '\x7d' :: rest => return ([(path, content)], rest)
      | _ => none

end

inductive Statement
  | assign (path : List Text) (content : Value)
  | header (path : List Text)
  /-- The header of one more table of an array. -/
  | nextHeader (path : List Text)

/-- The statement at the start of a text, and what follows it. -/
def statement? (text : Text) : Option (Statement × Text) :=
  match text with
  | '[' :: '[' :: rest => do
    match ← keyPath? rest with
    | (path, ']' :: ']' :: rest) => return (.nextHeader path, rest)
    | _ => none
  | '[' :: rest => do
    match ← keyPath? rest with
    | (path, ']' :: rest) => return (.header path, rest)
    | _ => none
  | _ => do
    let (path, rest) ← keyPath? text
    let rest ← equals? rest
    let (content, rest) ← value? (2 * rest.length) depthLimit rest
    return (.assign path content, rest)

/-- The statements of a document; every statement takes a character. -/
def statements? : Nat → Text → Option (List Statement)
  | 0, _ => none
  | fuel + 1, text => do
    match ← skipLayout? text.length text with
    | [] => return []
    | text =>
      let (statement, rest) ← statement? text
      return statement :: (← statements? fuel (← endLine? rest))

/-- A document while its statements are carried out. -/
structure Progress where
  /-- The headers that are open, each one a continuation of the one after it. -/
  headers : List (List Text) := []
  entries : Entries := []

/-- The path goes on where the start ends. -/
def continues (start path : List Text) : Bool := start.isPrefixOf path && start ≠ path

/-- Opens a header, whose last key is opened by `change`. -/
def Progress.openHeader (change : Text → Entries → Option Entries) (path : List Text)
    (progress : Progress) : Option Progress := do
  let headers := progress.headers.dropWhile fun header => !continues header path
  let place := headers.head?.getD []
  let steps := path.drop place.length
  let key ← steps.getLast?
  let entries ← within (extend (change key) steps.dropLast) place progress.entries
  return ⟨path :: headers, entries⟩

def Progress.take (progress : Progress) : Statement → Option Progress
  | .assign path content => do
    let place := progress.headers.head?.getD []
    let entries ← within (Toml.assign content path) place progress.entries
    return { progress with entries }
  | .header path => progress.openHeader openTable path
  | .nextHeader path => progress.openHeader openNext path

def parse? (text : Text) : Option (List (Text × Value)) := do
  let statements ← statements? (text.length + 1) text
  let progress ← statements.foldlM Progress.take {}
  return finishEntries progress.entries

end NextRelease.Toml
