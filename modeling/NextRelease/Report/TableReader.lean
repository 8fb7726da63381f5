import NextRelease.Report.Summary

/-!
# Reading the table of a summary

The rows of a Markdown table are its lines between the rule and the next empty line. A row has two
cells between bars; the second cell is code.
-/

namespace NextRelease

open Text

namespace Report

/-- The character takes part in the structure of a row. -/
def isRowMark (c : Char) : Bool := c == '|' || c == '\x60'

/-- The name and the value of a row, neither of which holds a mark. -/
def readRow? (line : Text) : Option (Text × Text) :=
  match split (· = '|') line with
  | [[], name, value, []] => do
    let name ← between? [' '] [' '] name
    let value ← between? [' ', '\x60'] ['\x60', ' '] value
    if name.any isRowMark || value.any isRowMark then none else some (name, value)
  | _ => none

/-- The lines of the rows of the first table in a document. -/
def rowLines (document : Text) : List Text :=
  (((lines document).dropWhile (· ≠ tableRule)).drop 1).takeWhile (· ≠ [])

def readTable? (document : Text) : Option (List (Text × Text)) :=
  (rowLines document).mapM readRow?

end Report

end NextRelease
