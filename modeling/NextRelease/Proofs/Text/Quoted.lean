import Mathlib.Algebra.Group.Nat.Defs
import Mathlib.Data.List.Basic
import NextRelease.Text.Quoted

/-!
# Quoted texts can be told apart

A quoted text consists of printable characters, none of which is a control character or ends a line.
It can be read back: the quote at its start is the one that its characters were escaped for, and
what stands for a character tells the character and where it ends, whatever follows. So no two texts
are quoted alike.
-/

namespace NextRelease.Text

/-! ## Printable characters -/

/-- One of the control characters of ASCII and of the block after it. -/
def IsControl (c : Char) : Prop := c.toNat < 0x20 ∨ 0x7F ≤ c.toNat ∧ c.toNat < 0xA0

/-- The characters that end a line, the line feed being one of many. -/
def lineEnds : List Char :=
  ['\n', '\x0b', '\x0c', '\r', '\x1c', '\x1d', '\x1e', '\u0085', '\u2028', '\u2029']

theorem not_isControl_of_isPrintable {c : Char} (h : isPrintable c = true) : ¬IsControl c := by
  intro hcontrol
  unfold isPrintable at h
  dsimp only at h
  split at h
  · rw [Bool.and_eq_true, decide_eq_true_eq, decide_eq_true_eq] at h
    rcases hcontrol with hlow | ⟨hlow, _⟩
    · exact Nat.not_le_of_lt hlow h.1
    · exact Nat.not_lt_of_le hlow h.2
  · next hascii =>
    -- The first run of characters that are not printable begins with these.
    have hrun : (0x80, 0xA0) ∈ unprintableRuns := List.mem_cons_self
    rw [Bool.not_eq_true', List.any_eq_false] at h
    refine h _ hrun ?_
    rw [Bool.and_eq_true, decide_eq_true_eq, decide_eq_true_eq]
    rcases hcontrol with hlow | ⟨_, hhigh⟩
    · exact absurd (Nat.lt_trans hlow (by decide)) hascii
    · exact ⟨Nat.le_of_not_lt hascii, Nat.le_of_lt hhigh⟩

theorem notMem_lineEnds_of_isPrintable {c : Char} (h : isPrintable c = true) : c ∉ lineEnds := by
  have hall : (lineEnds.all (!isPrintable ·)) = true := by decide +kernel
  intro hmem
  have hnot := List.all_eq_true.mp hall c hmem
  rw [h] at hnot
  cases hnot

/-! ## Hexadecimal digits -/

theorem isPrintable_of_mem_hexDigits {width n : Nat} {c : Char} (h : c ∈ hexDigits width n) :
    isPrintable c = true := by
  have hdigit : ∀ d < 16, isPrintable (hexDigit d) = true := by decide
  induction width generalizing n with
  | zero => cases h
  | succ width ih =>
    rcases List.mem_append.mp h with hfront | hlast
    · exact ih hfront
    · rw [List.mem_singleton.mp hlast]
      exact hdigit _ (Nat.mod_lt n (by decide))

theorem length_hexDigits (width n : Nat) : (hexDigits width n).length = width := by
  induction width generalizing n with
  | zero => rfl
  | succ width ih => rw [hexDigits, List.length_append, ih, List.length_singleton]

/-- The value of a hexadecimal digit in small letters. -/
def hexDigitValue (c : Char) : Nat := if c ≤ '9' then c.toNat - 48 else c.toNat - 87

/-- The number that hexadecimal digits stand for. -/
def hexValue (digits : Text) : Nat := digits.foldl (fun value c => 16 * value + hexDigitValue c) 0

theorem hexValue_concat (digits : Text) (c : Char) :
    hexValue (digits ++ [c]) = 16 * hexValue digits + hexDigitValue c :=
  List.foldl_append

/-- The last digits of a number are kept, so a number with no more digits is read back. -/
theorem hexValue_hexDigits (width n : Nat) : hexValue (hexDigits width n) = n % 16 ^ width := by
  have hdigit : ∀ d < 16, hexDigitValue (hexDigit d) = d := by decide
  induction width generalizing n with
  | zero => rw [Nat.pow_zero, Nat.mod_one]; rfl
  | succ width ih =>
    rw [hexDigits, hexValue_concat, ih, hdigit _ (Nat.mod_lt n (by decide)), Nat.pow_succ',
      Nat.mod_mul, Nat.add_comm]

theorem isPrintable_of_mem_escapeCode {c d : Char} (h : d ∈ escapeCode c) :
    isPrintable d = true := by
  have hcode {width : Nat} (mark : Char) (hmark : isPrintable mark = true)
      (hmem : d ∈ '\\' :: mark :: hexDigits width c.toNat) : isPrintable d = true := by
    rcases List.mem_cons.mp hmem with rfl | hrest
    · decide
    rcases List.mem_cons.mp hrest with rfl | hdigits
    · exact hmark
    · exact isPrintable_of_mem_hexDigits hdigits
  unfold escapeCode at h
  dsimp only at h
  split at h
  · exact hcode 'x' (by decide) h
  split at h
  · exact hcode 'u' (by decide) h
  · exact hcode 'U' (by decide) h

/-! ## Reading a character back -/

/-- A character from its code point in so many hexadecimal digits, and what follows it. -/
def codeAtStart (width : Nat) (text : Text) : Char × Text :=
  (Char.ofNat (hexValue (text.take width)), text.drop width)

/-- The character that the start of a text between quotes stands for, and what follows it. -/
def charAtStart? : Text → Option (Char × Text)
  | '\\' :: 't' :: rest => some ('\t', rest)
  | '\\' :: 'n' :: rest => some ('\n', rest)
  | '\\' :: 'r' :: rest => some ('\r', rest)
  | '\\' :: 'x' :: rest => some (codeAtStart 2 rest)
  | '\\' :: 'u' :: rest => some (codeAtStart 4 rest)
  | '\\' :: 'U' :: rest => some (codeAtStart 8 rest)
  | '\\' :: c :: rest => some (c, rest)
  | c :: rest => some (c, rest)
  | [] => none

theorem codeAtStart_hexDigits {width : Nat} {c : Char} (h : c.toNat < 16 ^ width) (rest : Text) :
    codeAtStart width (hexDigits width c.toNat ++ rest) = (c, rest) := by
  unfold codeAtStart
  rw [List.take_left' (length_hexDigits width c.toNat),
    List.drop_left' (length_hexDigits width c.toNat), hexValue_hexDigits, Nat.mod_eq_of_lt h,
    Char.ofNat_toNat]

theorem charAtStart?_escapeCode (c : Char) (rest : Text) :
    charAtStart? (escapeCode c ++ rest) = some (c, rest) := by
  have hcode : c.toNat < 16 ^ 8 := by
    rcases c.valid with hlow | ⟨_, hhigh⟩
    · exact Nat.lt_trans hlow (by decide)
    · exact Nat.lt_trans hhigh (by decide)
  unfold escapeCode
  dsimp only
  split
  · next hshort => exact congrArg some (codeAtStart_hexDigits hshort rest)
  · split
    · next hmiddle => exact congrArg some (codeAtStart_hexDigits hmiddle rest)
    · exact congrArg some (codeAtStart_hexDigits hcode rest)

theorem charAtStart?_plain {c : Char} (h : c ≠ '\\') (rest : Text) :
    charAtStart? (c :: rest) = some (c, rest) := by
  simp [charAtStart?, h]

variable {quote : Char} (hquote : quote = '\'' ∨ quote = '"')
include hquote

/-- What stands for a character is read back, whatever follows. -/
theorem charAtStart?_quoteChar (c : Char) (rest : Text) :
    charAtStart? (quoteChar quote c ++ rest) = some (c, rest) := by
  unfold quoteChar
  split
  · next hescaped =>
    rcases hescaped with rfl | rfl
    · rcases hquote with rfl | rfl
      · rfl
      · rfl
    · rfl
  next hplain =>
  split
  · next htab => rw [htab]; rfl
  split
  · next hnewline => rw [hnewline]; rfl
  split
  · next hreturn => rw [hreturn]; rfl
  split
  · exact charAtStart?_plain (not_or.mp hplain).2 rest
  · exact charAtStart?_escapeCode c rest

/-- No two texts are escaped alike for the same quote. -/
theorem flatMap_quoteChar_injective : Function.Injective (List.flatMap (quoteChar quote)) := by
  intro first second h
  induction first generalizing second with
  | nil =>
    cases second with
    | nil => rfl
    | cons d second =>
      have hread := charAtStart?_quoteChar hquote d (second.flatMap (quoteChar quote))
      rw [← List.flatMap_cons, ← h] at hread
      cases hread
  | cons c first ih =>
    have hread := charAtStart?_quoteChar hquote c (first.flatMap (quoteChar quote))
    rw [← List.flatMap_cons, h] at hread
    cases second with
    | nil => cases hread
    | cons d second =>
      rw [List.flatMap_cons, charAtStart?_quoteChar hquote d, Option.some.injEq,
        Prod.mk.injEq] at hread
      rw [hread.1, ih hread.2.symm]

theorem isPrintable_of_mem_quoteChar {c d : Char} (h : d ∈ quoteChar quote c) :
    isPrintable d = true := by
  have hescape {letter : Char} (hletter : isPrintable letter = true)
      (hmem : d ∈ ['\\', letter]) : isPrintable d = true := by
    rcases List.mem_cons.mp hmem with rfl | hmem
    · decide
    · rwa [List.mem_singleton.mp hmem]
  unfold quoteChar at h
  split at h
  · next hescaped =>
    refine hescape ?_ h
    rcases hescaped with rfl | rfl
    · rcases hquote with rfl | rfl
      · decide
      · decide
    · decide
  split at h
  · exact hescape (by decide) h
  split at h
  · exact hescape (by decide) h
  split at h
  · exact hescape (by decide) h
  split at h
  · next hprintable => rwa [List.mem_singleton.mp h]
  · exact isPrintable_of_mem_escapeCode h

omit hquote

/-! ## Quoted texts -/

theorem quoteFor_eq (text : Text) : quoteFor text = '\'' ∨ quoteFor text = '"' := by
  unfold quoteFor
  split
  · exact .inr rfl
  · exact .inl rfl

/-- A quoted text is printable, whatever the text holds. -/
theorem isPrintable_of_mem_quoted {text : Text} {c : Char} (h : c ∈ quoted text) :
    isPrintable c = true := by
  have hquote : isPrintable (quoteFor text) = true := by
    rcases quoteFor_eq text with heq | heq
    · rw [heq]; decide
    · rw [heq]; decide
  rcases List.mem_append.mp h with hfront | hlast
  · rcases List.mem_cons.mp hfront with rfl | hinner
    · exact hquote
    · obtain ⟨d, _, hd⟩ := List.mem_flatMap.mp hinner
      exact isPrintable_of_mem_quoteChar (quoteFor_eq text) hd
  · rwa [List.mem_singleton.mp hlast]

/-- No two texts are quoted alike: the first quote tells which one was escaped. -/
theorem quoted_injective : Function.Injective quoted := by
  intro first second h
  obtain ⟨hquote, hinner⟩ := List.cons.inj h
  rw [← hquote] at hinner
  exact flatMap_quoteChar_injective (quoteFor_eq first) (List.append_cancel_right hinner)

end NextRelease.Text
