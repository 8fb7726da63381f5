import NextRelease.Layout.Paragraph
import NextRelease.Text.DecimalDigit
import NextRelease.Text.WordCharacter

/-!
# Sentences

A sentence is a paragraph on its own. Its numbers and brackets are set off from the rest, so a line
of it consists of runs, and the line is as wide as its runs are, each measured on its own. A line
that is too wide by this measure is cut.
-/

namespace NextRelease.Layout

open Text

/-- Where a word begins or ends: of the two characters, one may stand in a word. -/
def wordEdge (before : Char) (after : Option Char) : Bool :=
  isWordCharacter before != after.any isWordCharacter

/-- A word begins or ends behind the first `n` characters. -/
def hasWordEdge (text : Text) (n : Nat) : Bool :=
  match text.drop (n - 1) with
  | [] => false
  | before :: rest => wordEdge before rest.head?

/-- The length of an exponent at the start of a text, zero if there is none. -/
def exponentLength : Text → Nat
  | 'e' :: rest =>
    let sign := if rest.head? = some '+' ∨ rest.head? = some '-' then 1 else 0
    let digits := ((rest.drop sign).takeWhile isDigit).length
    if digits = 0 then 0 else 1 + sign + digits
  | _ => 0

/--
The length of a decimal number at the start of a text: a sign, digits, a fraction and an exponent.
It stops as late as possible where a word begins or ends.
-/
def decimalLength? (text : Text) : Option Nat :=
  let sign := if text.head? = some '-' then 1 else 0
  let whole := ((text.drop sign).takeWhile isAsciiDigit).length
  let integer := sign + whole
  let ends := match text.drop integer with
    | '.' :: rest =>
      let fraction := integer + 1 + (rest.takeWhile isAsciiDigit).length
      [fraction + exponentLength (text.drop fraction), fraction, integer + 1, integer]
    | rest => [integer + exponentLength rest, integer]
  if whole = 0 then none else ends.find? (hasWordEdge text)

def isHexDigit (c : Char) : Bool :=
  isAsciiDigit c || ('a' ≤ c && c ≤ 'f') || ('A' ≤ c && c ≤ 'F')

/-- The length of a number at the start of a text; a decimal number stands behind no word. -/
def numberLength? (inWord : Bool) (text : Text) : Option Nat :=
  match if inWord then none else decimalLength? text with
  | some length => some length
  | none =>
    match text with
    | '0' :: 'x' :: rest => some (2 + (rest.takeWhile isHexDigit).length)
    | _ => none

def isBracket (c : Char) : Bool := ['[', ']', '\x7b', '\x7d', '(', ')'].contains c

def setOffLength? (inWord : Bool) (text : Text) : Option Nat :=
  if text.head?.any isBracket then some 1 else numberLength? inWord text

/--
The characters of a text, each with whether it opens a run. The first one does if `opens`, it
continues a word if `inWord`, and `covered` characters still belong to what was set off last.
-/
def markRuns (opens inWord : Bool) : Nat → Text → List (Char × Bool)
  | _, [] => []
  | covered + 1, c :: rest =>
    (c, false) :: markRuns (covered == 0) (isWordCharacter c) covered rest
  | 0, c :: rest =>
    match setOffLength? inWord (c :: rest) with
    | some (length + 1) => (c, true) :: markRuns (length == 0) (isWordCharacter c) length rest
    | _ => (c, opens) :: markRuns false (isWordCharacter c) 0 rest

def runsOf : List (Char × Bool) → List Text
  | [] => []
  | (c, _) :: rest =>
    match rest, runsOf rest with
    | (_, false) :: _, run :: runs => (c :: run) :: runs
    | _, runs => [c] :: runs

def cropRuns : Nat → List Text → Text
  | _, [] => []
  | width, run :: rest =>
    if cells run < width then run ++ cropRuns (width - cells run) rest
    else if cells run = width then run
    else crop width (glyphs run)

/-- A line of marked characters brought to the width at most. -/
def fitRuns (width : Nat) (line : List (Char × Bool)) : Text :=
  let runs := runsOf line
  if (runs.map cells).foldl (· + ·) 0 ≤ width then line.map (·.1) else cropRuns width runs

/-- The lines that the pieces of a line of marked characters become. -/
def fitPieces (width : Nat) (marked : List (Char × Bool)) : List Text → List Text
  | [] => []
  | piece :: rest =>
    let line := cut .fold width (dropExcessBlanks width piece)
    fitRuns width (line.zip (marked.map (·.2))) ::
      fitPieces width (marked.drop piece.length) rest

/-- The lines of a sentence; nothing fits into no width at all. -/
def sentence (width : Nat) (text : Text) : List Text :=
  if width = 0 then []
  else
    (lines text).flatMap fun line =>
      let line := expandTabs line
      fitPieces width (markRuns false false 0 line) (breakLine .fold width line)

end NextRelease.Layout
