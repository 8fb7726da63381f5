import NextRelease.Text.DecimalDigit

/-!
# Styling sequences

A terminal takes the escape character and an opening bracket as the start of a control sequence.
A sequence of digits and semicolons that ends in `m` sets the style of what follows and shows
nothing itself.
-/

namespace NextRelease.Text

def escapeCharacter : Char := '\x1b'

def hasControlSequence : Text → Bool
  | [] => false
  | c :: rest => (c == escapeCharacter && rest.head? == some '[') || hasControlSequence rest

/-- The length of a styling sequence at the start of a text, zero if there is none. -/
def stylingLength : Text → Nat
  | c :: '[' :: rest =>
    let parameters := (rest.takeWhile fun c => isAsciiDigit c || c == ';').length
    if c = escapeCharacter ∧ (rest.drop parameters).head? = some 'm' then parameters + 3 else 0
  | _ => 0

/-- Takes the styling sequences away; the first `covered` characters belong to one found before. -/
def unstyledFrom : Nat → Text → Text
  | _, [] => []
  | covered + 1, _ :: rest => unstyledFrom covered rest
  | 0, c :: rest =>
    match stylingLength (c :: rest) with
    | 0 => c :: unstyledFrom 0 rest
    | length + 1 => unstyledFrom length rest

def unstyled (text : Text) : Text := unstyledFrom 0 text

end NextRelease.Text
