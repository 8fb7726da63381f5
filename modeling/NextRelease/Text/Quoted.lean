import NextRelease.Text.Printable

/-!
# Quoted texts

A quoted text shows any text on one line of printable characters. It stands between apostrophes,
or between double quotes when it holds an apostrophe and no double quote. The quote and the
backslash are escaped, tab, newline and carriage return have escapes of one letter, and any other
character that is not printable is written by its code point.
-/

namespace NextRelease.Text

/-- The quote around the text: an apostrophe, unless only a double quote saves escapes. -/
def quoteFor (text : Text) : Char :=
  if '\'' ∈ text ∧ '"' ∉ text then '"' else '\''

/-- A digit of a hexadecimal numeral, in small letters. -/
def hexDigit (n : Nat) : Char :=
  if n < 10 then Char.ofNat (48 + n) else Char.ofNat (87 + n)

/-- The last `width` hexadecimal digits of a number. -/
def hexDigits : Nat → Nat → Text
  | 0, _ => []
  | width + 1, n => hexDigits width (n / 16) ++ [hexDigit (n % 16)]

/-- A character by its code point, in two, four or eight hexadecimal digits. -/
def escapeCode (c : Char) : Text :=
  let n := c.toNat
  if n < 0x100 then '\\' :: 'x' :: hexDigits 2 n
  else if n < 0x10000 then '\\' :: 'u' :: hexDigits 4 n
  else '\\' :: 'U' :: hexDigits 8 n

/-- One character as it stands between two quotes `quote`. -/
def quoteChar (quote c : Char) : Text :=
  if c = quote ∨ c = '\\' then ['\\', c]
  else if c = '\t' then ['\\', 't']
  else if c = '\n' then ['\\', 'n']
  else if c = '\r' then ['\\', 'r']
  else if isPrintable c then [c]
  else escapeCode c

/-- The text between quotes, on one line of printable characters. -/
def quoted (text : Text) : Text :=
  let quote := quoteFor text
  quote :: text.flatMap (quoteChar quote) ++ [quote]

end NextRelease.Text
