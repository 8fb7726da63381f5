import NextRelease.Failure
import NextRelease.Proofs.Text.Decimal

/-!
# Steps that may fail

A chain of steps gives an answer exactly if every step does. Numbers fail to be written only beyond
the limit on digits, and what is written is read back.
-/

namespace NextRelease

open Text

/-- Two steps in a row give an answer exactly if the first one does, and the second one on it. -/
theorem bind_eq_ok_iff {α β : Type} {first : Except Failure α} {next : α → Except Failure β}
    {answer : β} :
    (first >>= next) = .ok answer ↔ ∃ middle, first = .ok middle ∧ next middle = .ok answer := by
  cases first with
  | error failure => simp [bind, Except.bind]
  | ok middle => simp [bind, Except.bind]

theorem pure_eq_ok_iff {α : Type} {answer found : α} :
    (pure answer : Except Failure α) = .ok found ↔ found = answer := by
  simp [pure, Except.pure, eq_comm]

/-- Two steps in a row fail with what the first one fails with, or else the second one. -/
theorem bind_eq_error_iff {α β : Type} {first : Except Failure α} {next : α → Except Failure β}
    {failure : Failure} :
    (first >>= next) = .error failure ↔
      first = .error failure ∨ ∃ middle, first = .ok middle ∧ next middle = .error failure := by
  cases first with
  | error found => simp [bind, Except.bind]
  | ok middle => simp [bind, Except.bind]

/-- Steps behind a check give an answer exactly if nothing is refused and they do. -/
theorem check_eq_ok_iff {α β : Type} {refused : Prop} [Decidable refused] {cause : Failure}
    {next : α → Except Failure β} {steps : Except Failure β} {answer : β} :
    (if refused then throw cause >>= next else steps) = .ok answer ↔
      ¬refused ∧ steps = .ok answer := by
  by_cases h : refused
  · simp [h, throw, throwThe, MonadExceptOf.throw, bind, Except.bind]
  · simp [h]

/-- Steps behind a check fail with what the check refuses for, or else with what they fail with. -/
theorem check_eq_error_iff {α β : Type} {refused : Prop} [Decidable refused] {cause : Failure}
    {next : α → Except Failure β} {steps : Except Failure β} {failure : Failure} :
    (if refused then throw cause >>= next else steps) = .error failure ↔
      refused ∧ failure = cause ∨ ¬refused ∧ steps = .error failure := by
  by_cases h : refused
  · simp [h, throw, throwThe, MonadExceptOf.throw, bind, Except.bind, eq_comm]
  · simp [h]

theorem pure_ne_error {α : Type} {answer : α} {failure : Failure} :
    (pure answer : Except Failure α) ≠ .error failure := nofun

/-! ## Numbers within the limit -/

/-- Numbers below the limit are written in decimal digits, and the others are refused. -/
theorem writeNumber_eq_ok_iff {n : Nat} {text : Text} :
    writeNumber n = .ok text ↔ n < 10 ^ numeralLimit ∧ text = decimal n := by
  unfold writeNumber numeral?
  rw [← length_decimal_le_iff]
  by_cases h : (decimal n).length ≤ numeralLimit
  · simp [h, eq_comm]
  · simp [h]

theorem writeNumber_eq_error_iff {n : Nat} {failure : Failure} :
    writeNumber n = .error failure ↔ 10 ^ numeralLimit ≤ n ∧ failure = .numberTooLong := by
  unfold writeNumber numeral?
  rw [← Nat.not_lt, ← length_decimal_le_iff]
  by_cases h : (decimal n).length ≤ numeralLimit
  · simp [h]
  · simp [h, eq_comm]

theorem writeNumber_eq_ok {n : Nat} (h : n < 10 ^ numeralLimit) : writeNumber n = .ok (decimal n) :=
  writeNumber_eq_ok_iff.mpr ⟨h, rfl⟩

theorem readNumber_eq_ok_iff {digits : Text} {n : Nat} :
    readNumber digits = .ok n ↔ digits.length ≤ numeralLimit ∧ n = digitsValue digits := by
  unfold readNumber readNumeral?
  by_cases h : digits.length ≤ numeralLimit
  · simp [h, eq_comm]
  · simp [h]

theorem readNumber_eq_error_iff {digits : Text} {failure : Failure} :
    readNumber digits = .error failure ↔
      numeralLimit < digits.length ∧ failure = .numeralTooLong digits.length := by
  unfold readNumber readNumeral?
  rw [← Nat.not_le]
  by_cases h : digits.length ≤ numeralLimit
  · simp [h]
  · simp [h, eq_comm]

/-- A number that is written is read back. -/
theorem readNumber_decimal {n : Nat} (h : n < 10 ^ numeralLimit) :
    readNumber (decimal n) = .ok n := by
  simp [readNumber, readNumeral?, length_decimal_le_iff.mpr h, digitsValue_decimal]

end NextRelease
