import NextRelease.Text.Basic

/-!
# UTF-8

Octets are decoded from the left. A character takes one to four octets; the first octet says how
many follow and which second octets are allowed, so that overlong forms, surrogates and numbers
above U+10FFFF are refused at the second octet. A refusal says which octets are at fault: the
first octet of the character and the following ones that were still acceptable.
-/

namespace NextRelease.Text

inductive DecodeReason
  /-- No character begins with this octet. -/
  | invalidStart
  /-- The next octet cannot follow. -/
  | invalidContinuation
  /-- The octets end inside a character. -/
  | unexpectedEnd
  deriving DecidableEq, Repr

/-- Where and why decoding stopped. -/
structure DecodeFault where
  reason : DecodeReason
  /-- Number of octets before the faulty character. -/
  position : Nat
  /-- The octets of the faulty character up to the fault. -/
  octets : List Nat
  deriving DecidableEq, Repr

/-- What the first octet of a character announces. -/
inductive Lead
  | single
  /-- `following` octets come next, the first of them from `low` to `high`. -/
  | multiple (following low high : Nat)
  | invalid
  deriving DecidableEq, Repr

/-- The meaning of an octet at the start of a character. -/
def lead (octet : Nat) : Lead :=
  if octet < 0x80 then .single
  else if octet < 0xC2 then .invalid
  else if octet < 0xE0 then .multiple 1 0x80 0xBF
  else if octet = 0xE0 then .multiple 2 0xA0 0xBF
  else if octet = 0xED then .multiple 2 0x80 0x9F
  else if octet < 0xF0 then .multiple 2 0x80 0xBF
  else if octet = 0xF0 then .multiple 3 0x90 0xBF
  else if octet < 0xF4 then .multiple 3 0x80 0xBF
  else if octet = 0xF4 then .multiple 3 0x80 0x8F
  else .invalid

/-- The bits of the code point that the first octet holds. -/
def leadBits (octet : Nat) : Nat :=
  if octet < 0xE0 then octet % 0x20 else if octet < 0xF0 then octet % 0x10 else octet % 0x08

/-- A character of which some octets are still to come. -/
structure Unfinished where
  /-- Number of octets before the character. -/
  position : Nat
  octets : List Nat
  /-- The code point so far. -/
  value : Nat
  /-- How many octets are still to come. -/
  following : Nat
  low : Nat
  high : Nat

/-- The characters of the octets from `position` on, after those of an unfinished character. -/
def decodeFrom : Option Unfinished → Nat → List Nat → Except DecodeFault Text
  | none, _, [] => .ok []
  | some u, _, [] => .error ⟨.unexpectedEnd, u.position, u.octets⟩
  | none, position, octet :: rest =>
    match lead octet with
    | .single => (Char.ofNat octet :: ·) <$> decodeFrom none (position + 1) rest
    | .multiple following low high =>
      decodeFrom (some ⟨position, [octet], leadBits octet, following, low, high⟩) (position + 1) rest
    | .invalid => .error ⟨.invalidStart, position, [octet]⟩
  | some u, position, octet :: rest =>
    if u.low ≤ octet ∧ octet ≤ u.high then
      let value := u.value * 0x40 + octet % 0x40
      if u.following ≤ 1 then (Char.ofNat value :: ·) <$> decodeFrom none (position + 1) rest
      else
        decodeFrom (some ⟨u.position, u.octets ++ [octet], value, u.following - 1, 0x80, 0xBF⟩)
          (position + 1) rest
    else .error ⟨.invalidContinuation, u.position, u.octets⟩

/-- The text that the octets spell in UTF-8. -/
def decodeUtf8 (octets : List Nat) : Except DecodeFault Text := decodeFrom none 0 octets

/-- Every line break, `\r\n` or a lone `\r`, as a newline. -/
def unifyNewlines : Text → Text
  | [] => []
  | '\r' :: '\n' :: rest => '\n' :: unifyNewlines rest
  | c :: rest => (if c = '\r' then '\n' else c) :: unifyNewlines rest

end NextRelease.Text
