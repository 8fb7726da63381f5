import NextRelease.Log.Event
import NextRelease.Settings.Basic
import NextRelease.Settings.FileTree
import NextRelease.Toml.Document

/-!
# Loading settings

The settings of a repository stand in a file of their own, or else in a section of the project
file; without either the defaults hold. If the own file exists, the project file is not looked at.
A directory under one of the two names is no file. Loading works with any reader that tells which
table the text of a file spells, and in practice with that of TOML.
-/

namespace NextRelease

open Text

namespace Settings

/-- The name of the file that holds nothing but settings. -/
def ownFileName : Text := "versionkit.toml".toList

/-- The name of the project file, which may have a section for settings. -/
def projectFileName : Text := "pyproject.toml".toList

/-- Where settings are looked for. -/
structure Repository where
  root : Text
  rootExists : Bool
  /-- The octets of the file of its own, if there is one. -/
  ownFile : Option (List Nat)
  /-- The octets of the project file, if there is one. -/
  projectFile : Option (List Nat)

namespace Repository

def ofTree (tree : FileTree) (path : Path) : Repository where
  root := path.render tree.top
  rootExists := tree.isDirectory path
  ownFile := tree.octets? (path ++ [ownFileName])
  projectFile := tree.octets? (path ++ [projectFileName])

def filePath (repository : Repository) (name : Text) : Text := repository.root ++ '/' :: name

end Repository

/-- A reader of documents gives the table that a text spells, or nothing if it spells none. -/
abbrev DocumentReader := Text → Option (List (Text × Value))

def readTable (reader : DocumentReader) (path : Text) (octets : List Nat) :
    Except Failure (List (Text × Value)) :=
  match decodeUtf8 octets with
  | .error fault => .error (.undecodable fault)
  | .ok text =>
    match reader (unifyNewlines text) with
    | some entries => .ok entries
    | none => .error (.syntaxError path)

/-- The settings section of a project table, if there is one; a null stands for none. -/
def projectSection (entries : List (Text × Value)) :
    Except Failure (Option (List (Text × Value))) :=
  match entry? "tool".toList entries with
  | none => .ok none
  | some (.table tools) =>
    match entry? "versionkit".toList tools with
    | none => .ok none
    | some .null => .ok none
    | some (.table section_) => .ok (some section_)
    | some _ => .error .sectionNotTable
  | some value => .error (.toolsNotTable value.kind)

/-- The settings that a repository configures, in documents for the given reader. -/
def loadWith (reader : DocumentReader) (repository : Repository) : Except Failure Settings := do
  if !repository.rootExists then throw (.rootNotDirectory repository.root)
  match repository.ownFile, repository.projectFile with
  | some octets, _ => ofTable (← readTable reader (repository.filePath ownFileName) octets)
  | none, some octets =>
    let entries ← readTable reader (repository.filePath projectFileName) octets
    match ← projectSection entries with
    | some entries => ofTable entries
    | none => return {}
  | none, none => return {}

/-- The event of loading settings, under a name and with one field. -/
def loadEvent (name : String) (key : String) (path : Text) : Event where
  level := .debug
  logger := Event.settingsName
  name := name.toList
  fields := [(key.toList, .text path)]

/-- The event that says where the settings come from. -/
def loadEventsWith (reader : DocumentReader) (repository : Repository) : List Event :=
  let loaded (name : Text) := [loadEvent "config_loaded" "path" (repository.filePath name)]
  let defaults := [loadEvent "config_defaults" "root" repository.root]
  if !repository.rootExists then []
  else match repository.ownFile, repository.projectFile with
    | some _, _ => loaded ownFileName
    | none, some octets =>
      match readTable reader (repository.filePath projectFileName) octets >>= projectSection with
      | .ok (some _) => loaded projectFileName
      | .ok none => defaults
      | .error _ => []
    | none, none => defaults

/-- The settings that a repository configures in TOML. -/
def load (repository : Repository) : Except Failure Settings := loadWith Toml.parse? repository

def loadEvents (repository : Repository) : List Event := loadEventsWith Toml.parse? repository

end Settings

end NextRelease
