import NextRelease.Commit.Classify
import NextRelease.Proofs.Text.AnyCase

/-!
# How a message announces a breaking change

A message announces a breaking change by its footer, which may stand anywhere, or by its subject:
letters, perhaps a scope in parentheses, an exclamation mark and a colon, and any rest. Letters end
where a parenthesis or the mark begins, and a scope at its first closing parenthesis, so reading
from the left misses no such form.
-/

namespace NextRelease

open Text

/-- The footer of a breaking change stands somewhere in the message, in any case. -/
def HasBreakingFooter (message : Text) : Prop :=
  ∃ found, List.Forall₂ InAnyCase "BREAKING CHANGE:".toList found ∧ found <:+: message

/-- What may stand between the letters and the mark: nothing, or a scope in parentheses. -/
inductive IsScope : Text → Prop
  | absent : IsScope []
  | present {inner : Text} (hne : inner ≠ []) (hopen : ')' ∉ inner) :
    IsScope ('(' :: inner ++ [')'])

/-- The subject is composed of letters, perhaps a scope, the mark of a breaking change, and more. -/
def HasBreakingMark (subject : Text) : Prop :=
  ∃ letters scope rest, letters ≠ [] ∧ (∀ c ∈ letters, IsLetterInAnyCase c) ∧ IsScope scope ∧
    subject = letters ++ (scope ++ ("!:".toList ++ rest))

/-- The message announces a breaking change, by its footer or by its subject. -/
def AnnouncesBreaking (message : Text) : Prop :=
  HasBreakingFooter message ∨ HasBreakingMark (subjectLine message)

theorem hasBreakingFooter_iff {message : Text} :
    hasBreakingFooter message = true ↔ HasBreakingFooter message :=
  occursCaseless_iff (by simp)

/-- A text is cut where the first character stands that a class does not take. -/
theorem span_append {p : Char → Bool} {front rest : Text} (hfront : ∀ c ∈ front, p c = true)
    (hrest : ∀ c ∈ rest.head?, p c = false) :
    (front ++ rest).takeWhile p = front ∧ (front ++ rest).dropWhile p = rest := by
  rw [List.takeWhile_append_of_pos hfront, List.dropWhile_append_of_pos hfront]
  cases rest with
  | nil => simp
  | cons c rest => simp [hrest c rfl]

/-! ## Scopes -/

/-- A scope is skipped up to its first closing parenthesis. -/
theorem dropScope_present {inner : Text} (hne : inner ≠ []) (hopen : ')' ∉ inner) (after : Text) :
    dropScope ('(' :: (inner ++ ')' :: after)) = after := by
  have hinner : ∀ c ∈ inner, decide (c ≠ ')') = true := by
    intro c hc
    exact decide_eq_true fun heq => hopen (heq ▸ hc)
  have hend : ∀ c ∈ (')' :: after).head?, decide (c ≠ ')') = false := by simp
  obtain ⟨htake, hdrop⟩ := span_append hinner hend
  rw [dropScope, htake, hdrop, if_pos ⟨rfl, hne, by simp⟩]
  rfl

/-- A scope is skipped in front of the mark, which no scope begins with. -/
theorem dropScope_append_mark {scope : Text} (h : IsScope scope) (rest : Text) :
    dropScope (scope ++ ("!:".toList ++ rest)) = "!:".toList ++ rest := by
  cases h with
  | absent => rfl
  | present hne hopen => simpa using dropScope_present hne hopen ("!:".toList ++ rest)

/-- Nothing but a scope is skipped. -/
theorem exists_isScope_append_dropScope (text : Text) :
    ∃ scope, IsScope scope ∧ scope ++ dropScope text = text := by
  cases text with
  | nil => exact ⟨[], .absent, rfl⟩
  | cons c rest =>
    by_cases hscope : c = '(' ∧ rest.takeWhile (· ≠ ')') ≠ [] ∧ ')' ∈ rest
    · obtain ⟨rfl, hne, hclosed⟩ := hscope
      obtain ⟨inner, after, rfl, hopen⟩ := List.eq_append_cons_of_mem hclosed
      rw [takeWhile_append_mark hopen] at hne
      refine ⟨'(' :: inner ++ [')'], .present hne hopen, ?_⟩
      rw [dropScope_present hne hopen]
      simp
    · exact ⟨[], .absent, by rw [dropScope, if_neg hscope, List.nil_append]⟩

/-! ## Subjects -/

/-- No letter begins a scope or the mark. -/
theorem isLatinLetter_of_mem_head? {scope : Text} (h : IsScope scope) (rest : Text) :
    ∀ c ∈ (scope ++ ("!:".toList ++ rest)).head?, isLatinLetter c = false := by
  intro c hc
  cases h with
  | absent =>
    obtain rfl : '!' = c := Option.mem_some_iff.mp hc
    decide
  | present _ _ =>
    obtain rfl : '(' = c := Option.mem_some_iff.mp hc
    decide

theorem isBreakingSubject_iff {subject : Text} :
    isBreakingSubject subject = true ↔ HasBreakingMark subject := by
  rw [isBreakingSubject, Bool.and_eq_true, Bool.not_eq_true', List.isEmpty_eq_false_iff,
    List.isPrefixOf_iff_prefix]
  constructor
  · rintro ⟨hne, rest, hrest⟩
    obtain ⟨scope, hscope, hdrop⟩ :=
      exists_isScope_append_dropScope (subject.dropWhile isLatinLetter)
    refine ⟨subject.takeWhile isLatinLetter, scope, rest, hne, fun c hc => ?_, hscope, ?_⟩
    · exact isLatinLetter_iff.mp (List.mem_takeWhile_imp hc)
    · rw [hrest, hdrop, List.takeWhile_append_dropWhile]
  · rintro ⟨letters, scope, rest, hne, hletters, hscope, rfl⟩
    obtain ⟨htake, hdrop⟩ := span_append (fun c hc => isLatinLetter_iff.mpr (hletters c hc))
      (isLatinLetter_of_mem_head? hscope rest)
    rw [htake, hdrop, dropScope_append_mark hscope]
    exact ⟨hne, List.prefix_append _ _⟩

/-- A message announces a breaking change exactly if the first row of the table applies. -/
theorem announcesBreaking_iff {message : Text} :
    (hasBreakingFooter message || isBreakingSubject (subjectLine message)) = true ↔
      AnnouncesBreaking message := by
  rw [Bool.or_eq_true, hasBreakingFooter_iff, isBreakingSubject_iff, AnnouncesBreaking]

instance (message : Text) : Decidable (AnnouncesBreaking message) :=
  decidable_of_iff _ announcesBreaking_iff

/-! ## Blank messages -/

theorem subjectLine_of_allBlank {message : Text} (h : allBlank message = true) :
    subjectLine message = [] :=
  if_pos (trim_eq_nil_iff.mpr h)

/-- A blank message announces nothing. -/
theorem not_announcesBreaking_of_allBlank {message : Text} (h : allBlank message = true) :
    ¬AnnouncesBreaking message := by
  rintro (⟨found, hfound, hwithin⟩ | ⟨letters, scope, rest, hne, _, _, hsubject⟩)
  · -- The footer begins with a letter, which no blank stands for.
    obtain ⟨c, others, hcase, _, rfl⟩ := List.forall₂_cons_left_iff.mp hfound
    have hblank : isBlank c = true := List.all_eq_true.mp h c (hwithin.subset List.mem_cons_self)
    have hfold := (foldCase_eq_iff (by decide)).mpr hcase
    rw [foldCase_of_isBlank hblank] at hfold
    subst hfold
    revert hblank
    decide
  · rw [subjectLine_of_allBlank h] at hsubject
    exact hne (List.append_eq_nil_iff.mp hsubject.symm).1

theorem AnnouncesBreaking.allBlank_eq_false {message : Text} (h : AnnouncesBreaking message) :
    allBlank message = false :=
  Bool.eq_false_iff.mpr fun hblank => not_announcesBreaking_of_allBlank hblank h

end NextRelease
