import Mathlib.Algebra.Group.Nat.Defs
import Mathlib.Data.List.Induction
import NextRelease.Text.Blank
import NextRelease.Text.Numeral

/-!
# Decimal forms

The decimal form of a number has its value. It consists of the ten basic digits, so it holds no
blank and none of the marks that stand around numbers.
-/

namespace NextRelease.Text

/-! ## Basic digits -/

theorem toNat_of_isDigit {c : Char} (h : c.isDigit = true) : 48 ≤ c.toNat ∧ c.toNat ≤ 57 := by
  simpa [Char.isDigit, UInt32.le_iff_toNat_le] using h

theorem digitValue?_of_isDigit {c : Char} (h : c.isDigit = true) :
    digitValue? c = some (c.toNat - '0'.toNat) := by
  obtain ⟨hlow, hhigh⟩ := toNat_of_isDigit h
  have hzero :
      digitZeros.find? (fun start => start ≤ c.toNat && c.toNat < start + 10) = some 48 := by
    rw [digitZeros, List.find?_cons_of_pos]
    simp
    omega
  simp [digitValue?, hzero]

/-- A basic digit is a digit of its script. -/
theorem isDigit_of_basic {c : Char} (h : c.isDigit = true) : isDigit c = true := by
  simp [isDigit, digitValue?_of_isDigit h]

theorem isBlank_of_basic {c : Char} (h : c.isDigit = true) : isBlank c = false := by
  obtain ⟨hlow, hhigh⟩ := toNat_of_isDigit h
  simp only [isBlank, Bool.or_eq_false_iff, Bool.and_eq_false_iff, decide_eq_false_iff_not,
    beq_eq_false_iff_ne]
  omega

/-! ## Decimal forms -/

theorem decimal_ne_nil (n : Nat) : decimal n ≠ [] := Nat.toDigits_ne_nil

theorem isDigit_of_mem_decimal {n : Nat} {c : Char} (h : c ∈ decimal n) : c.isDigit = true :=
  Nat.isDigit_of_mem_toDigits (by decide) (by decide) h

/-- A decimal form does not hold a character that is no basic digit. -/
theorem notMem_decimal {n : Nat} {c : Char} (h : c.isDigit = false) : c ∉ decimal n := by
  intro hc
  simp [isDigit_of_mem_decimal hc] at h

/-- The number of digits bounds the number. -/
theorem length_decimal_le_iff {n : Nat} :
    (decimal n).length ≤ numeralLimit ↔ n < 10 ^ numeralLimit :=
  Nat.length_toDigits_le_iff (by decide) (by decide)

theorem digitsValue_of_basic {digits : Text} (h : ∀ c ∈ digits, c.isDigit = true) (value : Nat) :
    digits.foldl (fun value c => 10 * value + (digitValue? c).getD 0) value =
      Nat.ofDigitChars 10 digits value := by
  induction digits generalizing value with
  | nil => rfl
  | cons c rest ih =>
    rw [List.foldl_cons, Nat.ofDigitChars_cons, digitValue?_of_isDigit (h c List.mem_cons_self),
      ih fun d hd => h d (List.mem_cons_of_mem _ hd)]
    rfl

/-- The decimal form of a number has its value. -/
theorem digitsValue_decimal (n : Nat) : digitsValue (decimal n) = n := by
  rw [digitsValue, digitsValue_of_basic fun c hc => isDigit_of_mem_decimal hc]
  exact Nat.ofDigitChars_ten_toDigits

theorem decimal_injective : Function.Injective decimal :=
  Function.LeftInverse.injective digitsValue_decimal

/-! ## Digits of every script -/

theorem digitValue?_lt {c : Char} {value : Nat} (h : digitValue? c = some value) : value < 10 := by
  obtain ⟨start, hfind, rfl⟩ := Option.map_eq_some_iff.mp h
  have hrun := List.find?_some hfind
  simp only [Bool.and_eq_true, decide_eq_true_eq] at hrun
  omega

theorem digitsValue_concat (front : Text) (c : Char) :
    digitsValue (front ++ [c]) = 10 * digitsValue front + (digitValue? c).getD 0 := by
  simp [digitsValue]

/-- The number of digits bounds the value, whatever the script. -/
theorem digitsValue_lt (digits : Text) : digitsValue digits < 10 ^ digits.length := by
  -- Backward induction: the last digit adds less than ten to ten times the others.
  induction digits using List.reverseRecOn with
  | nil => simp [digitsValue]
  | append_singleton front c ih =>
    have hdigit : (digitValue? c).getD 0 < 10 := by
      cases hc : digitValue? c with
      | none => decide
      | some value => exact digitValue?_lt hc
    rw [digitsValue_concat, List.length_append, List.length_singleton, Nat.pow_succ]
    omega

/-- A numeral that is short enough to be read has a value that can be written. -/
theorem digitsValue_lt_of_length_le {digits : Text} (h : digits.length ≤ numeralLimit) :
    digitsValue digits < 10 ^ numeralLimit :=
  Nat.lt_of_lt_of_le (digitsValue_lt digits) (Nat.pow_le_pow_right (by decide) h)

end NextRelease.Text
