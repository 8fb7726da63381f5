import NextRelease.Text.Blank
import NextRelease.Text.Numeral
import NextRelease.Value

/-!
# Numbers of TOML

A number is an integer in one of four bases, a fraction, an infinity or a value that is no number.
It begins with a sign or an ASCII digit, without leading zeros, and may have underscores between
ASCII digits. Apart from that the digits may be of any script, blanks may stand at the end, and a
signed infinity may be written in full and in either case. Nothing but a digit or a blank follows a
point. A decimal integer has at most `numeralLimit` digits.
-/

namespace NextRelease.Toml

open Text

/-- The value of a hexadecimal digit in either case. -/
def hexValue? (c : Char) : Option Nat :=
  if '0' ≤ c ∧ c ≤ '9' then some (c.toNat - 48)
  else if 'a' ≤ c ∧ c ≤ 'f' then some (c.toNat - 87)
  else if 'A' ≤ c ∧ c ≤ 'F' then some (c.toNat - 55)
  else none

/-- An ASCII digit of a base up to sixteen. -/
def isAsciiDigitOf (base : Nat) (c : Char) : Bool := (hexValue? c).any (· < base)

/-- The value of a digit of a base up to sixteen, in any script. -/
def digitOf? (base : Nat) (c : Char) : Option Nat :=
  ((hexValue? c).or (digitValue? c)).filter (· < base)

/-- The base that the first characters of a number name. -/
def baseOf : Text → Nat
  | '0' :: 'x' :: _ => 16
  | '0' :: 'o' :: _ => 8
  | '0' :: 'b' :: _ => 2
  | _ => 10

def splitSign : Text → Text × Text
  | '+' :: rest => (['+'], rest)
  | '-' :: rest => (['-'], rest)
  | text => ([], text)

/-- What follows the sign of a number, if it has one, has no leading zeros; a base needs no sign. -/
def beginsWell (signed : Bool) : Text → Bool
  | [] => false
  | '0' :: c :: _ => c = '.' || c = 'e' || (!signed && baseOf ['0', c] ≠ 10)
  | c :: _ => isAsciiDigit c || (signed && c ≠ '.')

/-- The text without the underscores between ASCII digits of a base. -/
def joinDigits (base : Nat) (afterDigit : Bool) : Text → Text
  | [] => []
  | '_' :: c :: rest =>
    if afterDigit && isAsciiDigitOf base c then joinDigits base false (c :: rest)
    else '_' :: joinDigits base false (c :: rest)
  | c :: rest => c :: joinDigits base (isAsciiDigitOf base c) rest

/-- A blank that may stand at the end of a number; the information separators may not. -/
def isNumberBlank (c : Char) : Bool := isBlank c && !(0x1C ≤ c.toNat && c.toNat ≤ 0x1F)

def areDigits (base : Nat) (text : Text) : Bool :=
  !text.isEmpty && text.all fun c => (digitOf? base c).isSome

def valueOf (base : Nat) (digits : Text) : Nat :=
  (digits.filterMap (digitOf? base)).foldl (fun value digit => base * value + digit) 0

def mantissa (text : Text) : Text := text.takeWhile (· ≠ 'e')

/-- A fractional part or an exponent after digits, an infinity, or no number, in lower case. -/
def isFraction (text : Text) : Bool :=
  let exponent := text.dropWhile (· ≠ 'e')
  let whole := (mantissa text).takeWhile (· ≠ '.')
  let part := (mantissa text).dropWhile (· ≠ '.')
  ["inf".toList, "infinity".toList, "nan".toList].contains text ||
    (areDigits 10 whole && (part.drop 1).all isDigit &&
      (exponent.isEmpty || areDigits 10 (splitSign (exponent.drop 1)).2) &&
      !(part.isEmpty && exponent.isEmpty))

def number? (token : Text) : Option Value :=
  let (sign, text) := splitSign token
  let base := baseOf text
  let joined := (joinDigits base false text).map Char.toLower
  let number := (joined.reverse.dropWhile isNumberBlank).reverse
  let digits := if base = 10 then number else number.drop 2
  if token = "inf".toList ∨ token = "nan".toList then some (.fraction token)
  else if !beginsWell (!sign.isEmpty) text then none
  else if areDigits base digits then
    if base = 10 ∧ numeralLimit < digits.length then none
    else
      let value := valueOf base digits
      some (.integer (if sign = ['-'] then -(value : Int) else value))
  else if (mantissa joined).getLast? ≠ some '.' ∧ isFraction number then some (.fraction token)
  else none

end NextRelease.Toml
