import NextRelease.Toml.Number

/-!
# Numbers and points in time of TOML

A scalar that is not a string is recognised as a whole: a number, a date, a time of day, or both.
Seconds may be left out of a time.
-/

namespace NextRelease.Toml

open Text

/-- The value of a text of decimal digits of the given length. -/
def field? (length : Nat) (text : Text) : Option Nat :=
  if text.length = length ∧ text.all isAsciiDigit then some (digitsOf text) else none
where
  digitsOf (text : Text) : Nat := text.foldl (fun value c => 10 * value + (c.toNat - 48)) 0

def daysInMonth (year month : Nat) : Nat :=
  if month = 2 then
    if (year % 4 = 0 ∧ year % 100 ≠ 0) ∨ year % 400 = 0 then 29 else 28
  else if month = 4 ∨ month = 6 ∨ month = 9 ∨ month = 11 then 30 else 31

/-- A date of the calendar, with four digits for the year. -/
def isDate (text : Text) : Bool :=
  text.length = 10 && text[4]? = some '-' && text[7]? = some '-' &&
    match field? 4 (text.take 4), field? 2 ((text.drop 5).take 2), field? 2 (text.drop 8) with
    | some year, some month, some day =>
      1 ≤ year && 1 ≤ month && month ≤ 12 && 1 ≤ day && day ≤ daysInMonth year month
    | _, _, _ => false

def isBelow (bound : Nat) (text : Text) : Bool := (field? 2 text).any (· < bound)

def isHourMinute (text : Text) : Bool :=
  text.length = 5 && text[2]? = some ':' && isBelow 24 (text.take 2) && isBelow 60 (text.drop 3)

/-- What may follow hours and minutes: seconds, perhaps with a fraction, or nothing. -/
def isSeconds : Text → Bool
  | [] => true
  | ':' :: rest =>
    isBelow 60 (rest.take 2) &&
      match rest.drop 2 with
      | [] => true
      | '.' :: digits => !digits.isEmpty && digits.all isAsciiDigit
      | _ => false
  | _ => false

def isTime (text : Text) : Bool := isHourMinute (text.take 5) && isSeconds (text.drop 5)

/-- A time of day, perhaps with an offset: `Z`, or a sign with hours and minutes. -/
def isOffsetTime (text : Text) : Bool :=
  let isSign (c : Char) := c = '+' || c = '-' || c = 'Z' || c = 'z'
  isTime (text.takeWhile (!isSign ·)) &&
    match text.dropWhile (!isSign ·) with
    | [] => true
    | c :: rest => if c = '+' ∨ c = '-' then isHourMinute rest else rest.isEmpty

def isMoment (text : Text) : Bool :=
  isDate (text.take 10) && isOffsetTime (text.drop 11) &&
    ((text[10]?).any fun c => c = 'T' || c = 't' || c = ' ')

def scalar? (token : Text) : Option Value :=
  if isDate token then some (.date token)
  else if isTime token then some (.time token)
  else if isMoment token then some (.moment token)
  else number? token

end NextRelease.Toml
