import NextRelease.Text.Utf8

/-!
# File trees

The part of a file system below one directory, as files with their octets and directories. A path
is the list of its steps from that directory; a step of two dots leads back up. The location that a
path leads to has no such steps, but for those at the start that lead out of the directory. Every
directory above something that exists exists too.
-/

namespace NextRelease

open Text

/-- A path below the top of a file tree, step by step. -/
abbrev Path := List Text

namespace Path

/-- The path that slashes separate; empty steps and single dots lead nowhere. -/
def ofText (text : Text) : Path :=
  (split (· = '/') text).filter fun step => step ≠ [] && step ≠ ['.']

/-- The path with its top in front, in written form. -/
def render (top : Text) (path : Path) : Text := join ['/'] (top :: path)

def up : Text := ['.', '.']

def follow (location : Path) (step : Text) : Path :=
  if step = up ∧ location.getLast?.any (· ≠ up) then location.dropLast else location ++ [step]

def location (path : Path) : Path := path.foldl follow []

/-- The locations at which the steps of a path start, the first one at the given location. -/
def passedFrom (start : Path) : Path → List Path
  | [] => []
  | step :: rest => start :: passedFrom (start.follow step) rest

def passed (path : Path) : List Path := passedFrom [] path

end Path

/-- Files and directories below one directory, each at its location. -/
structure FileTree where
  /-- What the top directory is called in messages. -/
  top : Text
  files : List (Path × List Nat) := []
  directories : List Path := []

namespace FileTree

/--
The tree after its directories and files were made, with all that their paths pass. Of two files at
one location the later one stays.
-/
def ofPaths (top : Text) (files : List (Path × List Nat)) (directories : List Path) : FileTree where
  top := top
  files := (files.map fun file => (file.1.location, file.2)).reverse
  directories := directories.map Path.location ++
    (directories ++ files.map (·.1)).flatMap Path.passed

/-- There is a directory at the location; so there is above the top. -/
def hasDirectory (tree : FileTree) (location : Path) : Bool :=
  location.all (· = Path.up) || tree.directories.any location.isPrefixOf ||
    tree.files.any fun file => file.1 ≠ location && location.isPrefixOf file.1

/-- Every step back up starts at a directory. -/
def isPassable (tree : FileTree) (path : Path) : Bool :=
  (path.zip path.passed).all fun (step, location) => step ≠ Path.up || tree.hasDirectory location

/-- The octets of the file at a path, if there is one. -/
def octets? (tree : FileTree) (path : Path) : Option (List Nat) :=
  if tree.isPassable path then tree.files.lookup path.location else none

def isDirectory (tree : FileTree) (path : Path) : Bool :=
  tree.isPassable path && tree.hasDirectory path.location

end FileTree

end NextRelease
