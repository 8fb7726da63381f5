import Mathlib.Data.List.Forall2
import NextRelease.Proofs.Text.Caseless

/-!
# Characters in any case

Which characters stand for a basic one without regard to case: the character itself, the same letter
in the other case, and for three letters a foreign form. Folding the case of a text finds exactly
these, so a word that is sought in any case is a stretch of characters that stand for its own.
-/

namespace NextRelease.Text

/-- The foreign forms of Latin letters, each after the letter that it stands for in any case. -/
def foreignForms : List (Char × Char) :=
  [('i', '\u0130'), ('i', '\u0131'), ('s', '\u017f'), ('k', '\u212a')]

/-- The character is the basic one or its other case, or a foreign form of it. -/
def InAnyCase (basic c : Char) : Prop :=
  c.toLower = basic.toLower ∨ (basic.toLower, c) ∈ foreignForms

/-- The character is a letter from `a` to `z`, in any case. -/
def IsLetterInAnyCase (c : Char) : Prop :=
  ∃ letter, 'a' ≤ letter ∧ letter ≤ 'z' ∧ InAnyCase letter c

/-! ## Folding the case of a character -/

/-- What holds of each of the first 128 code points holds of a basic character. -/
theorem forall_basic {P : Char → Prop} (hall : ∀ n < 128, P (Char.ofNat n)) {c : Char}
    (h : c.toNat < 128) : P c := by
  simpa using hall c.toNat h

theorem foldCase_of_basic {c : Char} (h : c.toNat < 128) : foldCase c = c.toLower :=
  forall_basic (P := fun c => foldCase c = c.toLower) (by decide) h

theorem toNat_toLower_of_basic {c : Char} (h : c.toNat < 128) : c.toLower.toNat < 128 :=
  forall_basic (P := fun c => c.toLower.toNat < 128) (by decide) h

theorem toLower_of_le {c : Char} (h : 128 ≤ c.toNat) : c.toLower = c := by
  unfold Char.toLower
  rw [dif_neg]
  rintro ⟨_, hhigh⟩
  have hcode : c.toNat ≤ 90 := UInt32.le_iff_toNat_le.mp hhigh
  omega

theorem foldCase_of_mem {letter c : Char} (h : (letter, c) ∈ foreignForms) :
    foldCase c = letter := by
  simp only [foreignForms, List.mem_cons, List.not_mem_nil, or_false, Prod.mk.injEq] at h
  rcases h with ⟨rfl, rfl⟩ | ⟨rfl, rfl⟩ | ⟨rfl, rfl⟩ | ⟨rfl, rfl⟩ <;> rfl

theorem le_toNat_of_mem {letter c : Char} (h : (letter, c) ∈ foreignForms) : 128 ≤ c.toNat := by
  have hall : ∀ form ∈ foreignForms, 128 ≤ form.2.toNat := by decide
  exact hall _ h

theorem foldCase_of_notMem {c : Char} (h : ∀ letter, (letter, c) ∉ foreignForms) :
    foldCase c = c.toLower := by
  by_cases hbasic : c.toNat < 128
  · exact foldCase_of_basic hbasic
  · have hcapital : ¬('A' ≤ c ∧ c ≤ 'Z') := by
      rintro ⟨_, hhigh⟩
      have hcode : c.toNat ≤ 90 := UInt32.le_iff_toNat_le.mp hhigh
      omega
    have hi : ¬(c = '\u0130' ∨ c = '\u0131') := by
      rintro (rfl | rfl)
      · exact h 'i' (by decide)
      · exact h 'i' (by decide)
    have hs : c ≠ '\u017f' := by
      rintro rfl
      exact h 's' (by decide)
    have hk : c ≠ '\u212a' := by
      rintro rfl
      exact h 'k' (by decide)
    rw [foldCase, if_neg hcapital, if_neg hi, if_neg hs, if_neg hk,
      toLower_of_le (Nat.le_of_not_lt hbasic)]

/-- Folding finds exactly the characters that stand for a basic one in any case. -/
theorem foldCase_eq_iff {basic c : Char} (h : basic.toNat < 128) :
    foldCase basic = foldCase c ↔ InAnyCase basic c := by
  rw [foldCase_of_basic h, InAnyCase]
  by_cases hforeign : ∃ letter, (letter, c) ∈ foreignForms
  · obtain ⟨letter, hmem⟩ := hforeign
    have hc : c.toLower ≠ basic.toLower := by
      have hlow := toNat_toLower_of_basic h
      have hhigh := le_toNat_of_mem hmem
      rw [toLower_of_le hhigh]
      rintro rfl
      omega
    rw [foldCase_of_mem hmem, or_iff_right hc]
    constructor
    · rintro rfl
      exact hmem
    · intro hother
      rw [← foldCase_of_mem hmem, foldCase_of_mem hother]
  · rw [not_exists] at hforeign
    rw [foldCase_of_notMem hforeign, or_iff_left (hforeign _)]
    exact eq_comm

theorem isLatinLetter_iff {c : Char} : isLatinLetter c = true ↔ IsLetterInAnyCase c := by
  have hbasic : ∀ {letter : Char}, letter ≤ 'z' → letter.toNat < 128 := by
    intro letter hhigh
    have hcode : letter.toNat ≤ 122 := UInt32.le_iff_toNat_le.mp hhigh
    omega
  have hself : ∀ {letter : Char}, 'a' ≤ letter → letter ≤ 'z' → foldCase letter = letter := by
    intro letter hlow hhigh
    exact forall_basic (P := fun c => 'a' ≤ c → foldCase c = c) (by decide) (hbasic hhigh)
      hlow
  rw [isLatinLetter, Bool.and_eq_true, decide_eq_true_eq, decide_eq_true_eq]
  constructor
  · rintro ⟨hlow, hhigh⟩
    exact ⟨foldCase c, hlow, hhigh, (foldCase_eq_iff (hbasic hhigh)).mp (hself hlow hhigh)⟩
  · rintro ⟨letter, hlow, hhigh, hcase⟩
    rw [← (foldCase_eq_iff (hbasic hhigh)).mpr hcase, hself hlow hhigh]
    exact ⟨hlow, hhigh⟩

/-! ## Words in any case -/

theorem map_foldCase_eq_iff {word found : Text} (h : ∀ c ∈ word, c.toNat < 128) :
    word.map foldCase = found.map foldCase ↔ List.Forall₂ InAnyCase word found := by
  induction word generalizing found with
  | nil => simp [eq_comm]
  | cons basic rest ih =>
    obtain ⟨hbasic, hrest⟩ := List.forall_mem_cons.mp h
    cases found with
    | nil => simp
    | cons c found =>
      rw [List.map_cons, List.map_cons, List.cons.injEq, List.forall₂_cons, foldCase_eq_iff hbasic,
        ih hrest]

/-- A basic word is found in any case exactly where the characters stand for its own. -/
theorem occursCaseless_iff {word text : Text} (h : ∀ c ∈ word, c.toNat < 128) :
    occursCaseless word text = true ↔
      ∃ found, List.Forall₂ InAnyCase word found ∧ found <:+: text := by
  rw [occursCaseless, occursIn_iff, List.infix_map_iff]
  refine exists_congr fun found => ?_
  rw [map_foldCase_eq_iff h, and_comm]

end NextRelease.Text
