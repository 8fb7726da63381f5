import NextRelease.Proofs.Settings.Table
import NextRelease.Proofs.Text.Order
import NextRelease.Proofs.Value

/-!
# Settings of the same mapping

The settings of a table hang on nothing but the values under its keys: two tables with distinct keys
and the same values give the same settings, or are refused for the same reason, in whatever order
their entries stand.
-/

namespace NextRelease.Settings

open Text

variable {first second : List (Text × Value)} (hfirst : HasDistinctKeys first)
  (hsecond : HasDistinctKeys second) (h : SameTable first second)

include h in
theorem textEntry_congr (key absent : Text) :
    textEntry first key absent = textEntry second key absent := by
  rw [textEntry, textEntry, h key]

include h in
theorem booleanEntry_congr (key : Text) (absent : Bool) :
    booleanEntry first key absent = booleanEntry second key absent := by
  rw [booleanEntry, booleanEntry, h key]

include hfirst hsecond h

theorem unknownKeys_congr : unknownKeys first = unknownKeys second :=
  sortBy_precedes_eq_of_perm ((keys_perm_of_sameTable hfirst hsecond h).filter _)

/-- The same mapping gives the same settings, or the same failure. -/
theorem ofTable_congr : ofTable first = ofTable second := by
  simp only [ofTable, textEntry_congr h, booleanEntry_congr h]
  rw [unknownKeys_congr hfirst hsecond h]

end NextRelease.Settings
