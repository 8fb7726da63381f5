import NextRelease.Value

/-!
# Tables under construction

A TOML document may define a table in several parts: by a header of its own, as a part of longer
headers, and by dotted keys. Each table remembers how its last part came about, because that
decides which part may be next. A header follows only a part of longer headers, a dotted key
follows anything but a header, and a longer header adds to every table. Values, inline tables among
them, are closed. Arrays of tables only take further tables.
-/

namespace NextRelease.Toml

/-- How a part of a table came about. -/
inductive Origin
  /-- As a part of longer headers. -/
  | implied
  | header
  | dotted
  deriving DecidableEq, Repr

/-- What stands under a key of a table under construction. -/
inductive Node
  | value (content : Value)
  /-- A table with the origin of its last part. -/
  | table (origin : Origin) (entries : List (Text × Node))
  /-- An array of tables, the last one first. -/
  | series (tables : List (List (Text × Node)))

/-- The entries of a table under construction. -/
abbrev Entries := List (Text × Node)

def put (key : Text) (node : Node) (entries : Entries) : Entries :=
  entries.map fun entry => if entry.1 = key then (key, node) else entry

/-- Changes the open table that a path leads to; the last table of an array is the open one. -/
def within (change : Entries → Option Entries) : List Text → Entries → Option Entries
  | [], entries => change entries
  | key :: path, entries =>
    match entries.lookup key with
    | some (.table origin inner) => do
      let inner ← within change path inner
      return put key (.table origin inner) entries
    | some (.series (last :: earlier)) => do
      let last ← within change path last
      return put key (.series (last :: earlier)) entries
    | _ => none

/-- Changes the table that a path leads to, after adding a part to every table on the way. -/
def extend (change : Entries → Option Entries) : List Text → Entries → Option Entries
  | [], entries => change entries
  | key :: path, entries =>
    match entries.lookup key with
    | none => do
      let inner ← extend change path []
      return entries ++ [(key, .table .implied inner)]
    | some (.table _ inner) => do
      let inner ← extend change path inner
      return put key (.table .implied inner) entries
    | some _ => none

/-- Defines the value under a dotted key. -/
def assign (content : Value) : List Text → Entries → Option Entries
  | [], _ => none
  | [key], entries =>
    if (entries.lookup key).isSome then none else some (entries ++ [(key, .value content)])
  | key :: path, entries =>
    match entries.lookup key with
    | none => do
      let inner ← assign content path []
      return entries ++ [(key, .table .dotted inner)]
    | some (.table origin inner) =>
      if origin = .header then none
      else do
        let inner ← assign content path inner
        return put key (.table .dotted inner) entries
    | some _ => none

/-- Opens the table under a key, as its header does. -/
def openTable (key : Text) (entries : Entries) : Option Entries :=
  match entries.lookup key with
  | none => some (entries ++ [(key, .table .header [])])
  | some (.table .implied inner) => some (put key (.table .header inner) entries)
  | some _ => none

/-- Opens one more table of the array under a key, as its header does. -/
def openNext (key : Text) (entries : Entries) : Option Entries :=
  match entries.lookup key with
  | none => some (entries ++ [(key, .series [[]])])
  | some (.series tables) => some (put key (.series ([] :: tables)) entries)
  | some _ => none

mutual

def Node.finish : Node → Value
  | .value content => content
  | .table _ entries => .table (finishEntries entries)
  | .series tables => .array (finishSeries tables).reverse

def finishEntries : List (Text × Node) → List (Text × Value)
  | [] => []
  | (key, node) :: rest => (key, node.finish) :: finishEntries rest

def finishSeries : List (List (Text × Node)) → List Value
  | [] => []
  | entries :: rest => .table (finishEntries entries) :: finishSeries rest

end

/-- The entries that a list of dotted keys with values defines. -/
def ofAssignments (fields : List (List Text × Value)) : Option (List (Text × Value)) :=
  (fields.foldlM (fun entries field => assign field.2 field.1 entries) []).map finishEntries

end NextRelease.Toml
