import NextRelease.Text.DecimalDigit

/-!
# Decimal numerals

A number is written with the fewest decimal digits. Reading takes the digits of every script and
leading zeros. Both ways go through at most `numeralLimit` digits: longer numerals are refused, as
the time to convert them grows with the square of their length.
-/

namespace NextRelease.Text

/-- The most digits a numeral may have to be read or written. -/
def numeralLimit : Nat := 4300

/-- The decimal digits of a number, without leading zeros. -/
def decimal (n : Nat) : Text := Nat.toDigits 10 n

/-- The decimal digits of an integer, after a minus sign if it is negative. -/
def signedDecimal (n : Int) : Text := if n < 0 then '-' :: decimal n.natAbs else decimal n.natAbs

/-- The value of a text of decimal digits; other characters count as zeros. -/
def digitsValue (digits : Text) : Nat :=
  digits.foldl (fun value c => 10 * value + (digitValue? c).getD 0) 0

/-- The decimal digits of a number that has at most `numeralLimit` of them. -/
def numeral? (n : Nat) : Option Text :=
  let digits := decimal n
  if digits.length ≤ numeralLimit then some digits else none

/-- The decimal form of an integer that has at most `numeralLimit` digits. -/
def signedNumeral? (n : Int) : Option Text := (numeral? n.natAbs).map fun _ => signedDecimal n

/-- The value of a text of at most `numeralLimit` decimal digits. -/
def readNumeral? (digits : Text) : Option Nat :=
  if digits.length ≤ numeralLimit then some (digitsValue digits) else none

end NextRelease.Text
