import NextRelease.Text.Basic

/-!
# Caseless comparison of Latin letters

Two letters are the same without regard to case when they fold to the same letter. Besides the
capitals, four characters fold to a plain Latin letter: the capital I with a dot and the small i
without one, the long s, and the kelvin sign.
-/

namespace NextRelease.Text

/-- The small letter that stands for a Latin letter in every case; other characters are kept. -/
def foldCase (c : Char) : Char :=
  if 'A' ≤ c ∧ c ≤ 'Z' then Char.ofNat (c.toNat + 32)
  else if c = '\u0130' ∨ c = '\u0131' then 'i'
  else if c = '\u017f' then 's'
  else if c = '\u212a' then 'k'
  else c

def isLatinLetter (c : Char) : Bool := 'a' ≤ foldCase c && foldCase c ≤ 'z'

/-- The word stands somewhere in the text, in any mixture of cases. -/
def occursCaseless (word text : Text) : Bool := occursIn (word.map foldCase) (text.map foldCase)

end NextRelease.Text
