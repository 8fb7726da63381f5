import NextRelease.Toml.Scalar

/-!
# Strings of TOML

A string is basic, with escapes, or literal, without. Either may stand between single quotation
marks on one line, or between triple ones over several lines, where a newline right after the
opening marks does not count and one or two more marks may precede the closing ones. Control
characters other than the tab are refused.
-/

namespace NextRelease.Toml

open Text

/-- A control character that no string and no comment may hold; the newline is one of them. -/
def isControl (c : Char) : Bool := (c.toNat < 0x20 && c ≠ '\t') || c.toNat = 0x7F

/-- The character whose code point has the given hexadecimal digits. -/
def charOfHex? (digits : Text) : Option Char := do
  let values ← digits.mapM hexValue?
  let n := values.foldl (fun value digit => 16 * value + digit) 0
  if n.isValidChar then some (Char.ofNat n) else none

/-- The character with a code point of `width` hexadecimal digits, and what follows. -/
def escapedCode? (width : Nat) (text : Text) : Option (Char × Text) :=
  if width ≤ text.length then (charOfHex? (text.take width)).map (·, text.drop width) else none

/-- The character of an escape, after its backslash, and what follows. -/
def escaped? : Text → Option (Char × Text)
  | [] => none
  | c :: rest =>
    match c with
    | 'b' => some ('\x08', rest)
    | 't' => some ('\t', rest)
    | 'n' => some ('\n', rest)
    | 'f' => some ('\x0c', rest)
    | 'r' => some ('\r', rest)
    | 'e' => some ('\x1b', rest)
    | '"' => some ('"', rest)
    | '\\' => some ('\\', rest)
    | 'x' => escapedCode? 2 rest
    | 'u' => escapedCode? 4 rest
    | 'U' => escapedCode? 8 rest
    | _ => none

/-- Blanks and newlines at the start are skipped, if there is a newline among them. -/
def skipLineEnd? (text : Text) : Option Text :=
  match text.dropWhile fun c => c = ' ' || c = '\t' with
  | '\n' :: rest => some (rest.dropWhile fun c => c = ' ' || c = '\t' || c = '\n')
  | _ => none

structure Style where
  mark : Char
  escapes : Bool
  /-- The marks are triple, and newlines are allowed. -/
  multiline : Bool

/--
The rest of a string after its opening marks: its content, and what follows its closing marks.
Every step takes a character, so `fuel` may be the length of the text.
-/
def content? (style : Style) : Nat → Text → Option (Text × Text)
  | 0, _ => none
  | _ + 1, [] => none
  | fuel + 1, c :: rest =>
    if c = style.mark then
      if !style.multiline then some ([], rest)
      else
        let marks := 1 + (rest.takeWhile (· = style.mark)).length
        if 3 ≤ marks then
          some (List.replicate (min 2 (marks - 3)) c, rest.drop (min 4 (marks - 1)))
        else (content? style fuel rest).map fun (text, after) => (c :: text, after)
    else if c = '\\' ∧ style.escapes then
      match (if style.multiline then skipLineEnd? rest else none) with
      | some after => content? style fuel after
      | none => do
        let (char, after) ← escaped? rest
        let (text, after) ← content? style fuel after
        return (char :: text, after)
    else if isControl c ∧ ¬(style.multiline ∧ c = '\n') then none
    else (content? style fuel rest).map fun (text, after) => (c :: text, after)

/-- The content of a string at the start of a text, on one line, and what follows. -/
def lineString? : Text → Option (Text × Text)
  | [] => none
  | c :: rest =>
    if c = '"' ∨ c = '\'' then content? ⟨c, c = '"', false⟩ rest.length rest else none

def string? (text : Text) : Option (Text × Text) :=
  match text with
  | c :: d :: e :: rest =>
    if (c = '"' ∨ c = '\'') ∧ d = c ∧ e = c then
      let rest := if rest.head? = some '\n' then rest.drop 1 else rest
      content? ⟨c, c = '"', true⟩ rest.length rest
    else lineString? text
  | _ => lineString? text

end NextRelease.Toml
