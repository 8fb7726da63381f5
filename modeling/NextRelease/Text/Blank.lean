import NextRelease.Text.Basic

/-!
# Blank space

What counts as blank at the edge of a text: the Unicode white space characters and the four
information separators. The zero-width space, the byte order mark and NUL are not blank.
-/

namespace NextRelease.Text

/-- White space, or one of the separators U+001C to U+001F. -/
def isBlank (c : Char) : Bool :=
  let n := c.toNat
  (0x09 ≤ n && n ≤ 0x0D) || (0x1C ≤ n && n ≤ 0x20) || n == 0x85 || n == 0xA0 || n == 0x1680 ||
    (0x2000 ≤ n && n ≤ 0x200A) || n == 0x2028 || n == 0x2029 || n == 0x202F || n == 0x205F ||
    n == 0x3000

def trimLeft (text : Text) : Text := text.dropWhile isBlank

def trimRight (text : Text) : Text := (text.reverse.dropWhile isBlank).reverse

def trim (text : Text) : Text := trimRight (trimLeft text)

/-- The text without blanks at its edges and at the ends of its lines: what layout leaves of it. -/
def tidy (text : Text) : Text := joinLines ((lines (trim text)).map trimRight)

/-- A text of blanks only carries no information. -/
def allBlank (text : Text) : Bool := text.all isBlank

end NextRelease.Text
