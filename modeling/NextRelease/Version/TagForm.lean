import NextRelease.Version.Tag

/-!
# The form of version tags

What remains of a tag, trimmed and without the prefix of tags, stands for a version if it is three
runs of digits joined by dots, perhaps after a `v`, and then any text that does not begin with a
digit. Here this is said of the whole text, without reading it from the left.
-/

namespace NextRelease

open Text

namespace ComponentDigits

def dotted (digits : ComponentDigits) : Text :=
  digits.major ++ '.' :: digits.minor ++ '.' :: digits.patch

/-- Each component is a non-empty run of decimal digits. -/
def AreRuns (digits : ComponentDigits) : Prop :=
  ∀ run ∈ [digits.major, digits.minor, digits.patch], run ≠ [] ∧ run.all isDigit

end ComponentDigits

/-- The body of a tag has these digit runs, perhaps after a `v`, and `rest` follows them. -/
structure HasTagForm (body : Text) (digits : ComponentDigits) (rest : Text) : Prop where
  runs : digits.AreRuns
  rest_not_digit : rest.head?.all (!isDigit ·)
  body_eq : body = digits.dotted ++ rest ∨ body = 'v' :: digits.dotted ++ rest

end NextRelease
