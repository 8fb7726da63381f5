import NextRelease.Layout.Cells
import NextRelease.Text.Blank

/-!
# Paragraphs

A text is broken into lines at its newlines, and each of these into lines that fit a width. A word
takes the blanks after it along and goes to the next line if it does not fit without them. A word
that no line can hold is folded over several lines or cut, as the paragraph asks for.
-/

namespace NextRelease.Layout

open Text

/-- What happens to a word that is longer than a line. -/
inductive Overflow
  /-- It fills as many lines as it needs, from a new line on. -/
  | fold
  /-- It is cut, and an ellipsis shows it. -/
  | ellipsis
  deriving DecidableEq, Repr

inductive Alignment
  /-- On the left, with blanks up to the width. -/
  | left
  /-- In the middle, with blanks up to the width. -/
  | center
  deriving DecidableEq, Repr

/-- The blanks at the start of a text and its words, each with the blanks after it. -/
def blanksAndWords : Text → Text × List Text
  | [] => ([], [])
  | c :: rest =>
    match isBlank c, blanksAndWords rest with
    | true, (blanks, words) => (c :: blanks, words)
    | false, ([], word :: words) => ([], (c :: word) :: words)
    | false, (blanks, words) => ([], (c :: blanks) :: words)

/-- The words of a text, the first one with the blanks before it; a text of blanks has none. -/
def words (text : Text) : List Text :=
  match blanksAndWords text with
  | (_, []) => []
  | (blanks, first :: rest) => (blanks ++ first) :: rest

/-- Lines under construction. -/
structure Draft where
  done : List Text := []
  current : Text := []
  /-- The cells of the current line that count as used. -/
  used : Nat := 0

/-- Nothing has been put on a line yet. -/
def Draft.isEmpty (draft : Draft) : Bool := draft.done.isEmpty && draft.current.isEmpty

/-- A text on a new line, which is the current one if nothing has been put on a line yet. -/
def Draft.newLine (draft : Draft) (text : Text) : Draft :=
  if draft.isEmpty then ⟨[], text, cells text⟩
  else ⟨draft.done ++ [draft.current], text, cells text⟩

def Draft.add (overflow : Overflow) (width : Nat) (draft : Draft) (word : Text) : Draft :=
  let needed := cells (trimRight word)
  if draft.used + needed ≤ width then
    { draft with current := draft.current ++ word, used := draft.used + cells word }
  else if width < needed then
    match overflow with
    | .fold => (chop width word).foldl Draft.newLine draft
    | .ellipsis => draft.newLine word
  else if draft.used = 0 then { draft with current := draft.current ++ word }
  else draft.newLine word

/-- The lines of a text without newlines, each with the blanks at its end. -/
def breakLine (overflow : Overflow) (width : Nat) (text : Text) : List Text :=
  match words text with
  | [] => [text]
  | words =>
    let draft := words.foldl (Draft.add overflow width) {}
    draft.done ++ [draft.current]

/-- Blanks at the end are dropped as far as the line is longer than the width. -/
def dropExcessBlanks (width : Nat) (line : Text) : Text :=
  let blanks := line.length - (trimRight line).length
  line.take (line.length - min blanks (line.length - width))

def cut (overflow : Overflow) (width : Nat) (line : Text) : Text :=
  if cells line ≤ width then line
  else match overflow with
    | .fold => crop width (glyphs line)
    | .ellipsis => crop (width - 1) (glyphs line) ++ ['…']

def pad (width : Nat) (line : Text) : Text := line ++ List.replicate (width - cells line) ' '

/-- The line filled with blanks; the first one may have been joined to the end of the line. -/
def fill (width : Nat) (line : Text) : Text := pad width (pad width line)

def align (overflow : Overflow) (alignment : Alignment) (width : Nat) (line : Text) : Text :=
  match alignment with
  | .left => fill width (cut overflow width line)
  | .center =>
    let line := cut overflow width (trimRight line)
    fill width (List.replicate ((width - cells line) / 2) ' ' ++ line)

/-- The number of cells between tab stops. -/
def tabStop : Nat := 8

/--
Pieces with a blank and further ones up to the next tab stop between them; `used` cells stand
before them.
-/
def tabulate (used : Nat) : List Text → Text
  | [] => []
  | [piece] => piece
  | piece :: rest =>
    let start := piece ++ [' ']
    let next := (used + cells start + tabStop - 1) / tabStop * tabStop
    start ++ List.replicate (next - (used + cells start)) ' ' ++ tabulate next rest

/-- The line with blanks up to the next tab stop for every tab. -/
def expandTabs (line : Text) : Text := tabulate 0 (split (· = '\t') line)

/-- The lines of a paragraph; nothing fits into no width at all. -/
def paragraph (overflow : Overflow) (alignment : Alignment) (width : Nat) (text : Text) :
    List Text :=
  if width = 0 then []
  else
    (lines text).flatMap fun line =>
      (breakLine overflow width (expandTabs line)).map fun line =>
        align overflow alignment width (dropExcessBlanks width line)

/-- A terminal would obey the character: bell, backspace, vertical tab, form feed or return. -/
def isControl (c : Char) : Bool := [0x07, 0x08, 0x0B, 0x0C, 0x0D].contains c.toNat

/-- Control characters that a terminal would obey are not shown. -/
def dropControls (text : Text) : Text := text.filter (!isControl ·)

/-- The character ends a line where a text is measured. -/
def endsLine (c : Char) : Bool := [0x0A, 0x1C, 0x1D, 0x1E, 0x85, 0x2028, 0x2029].contains c.toNat

/-- The cells of the widest line of a text. -/
def naturalWidth (text : Text) : Nat := ((split endsLine text).map cells).foldl max 0

end NextRelease.Layout
