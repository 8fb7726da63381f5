import NextRelease.Proofs.Notes.Lines
import NextRelease.Proofs.Text.Tidy

/-!
# The subject of a commit

The subject is read from the trimmed message, yet it is the first line of the message itself that
has text, without the blanks at its edges: trimming a message takes off the blank lines before that
line and nothing of the line but its edges. The rules of classification judge this line, the commit
shows it, and its item in the release notes begins with it.
-/

namespace NextRelease

open Text

namespace Text

/-! ## First lines -/

/-- The first line that has text. -/
def firstUnblankLine? (text : Text) : Option Text := (lines text).find? (!allBlank ·)

theorem firstLine_cons {c : Char} (hc : c ≠ '\n') (rest : Text) :
    firstLine (c :: rest) = c :: firstLine rest := by
  simp [firstLine, hc]

theorem ne_newline_of_unblank {c : Char} (h : isBlank c = false) : c ≠ '\n' := by
  rintro rfl
  exact absurd h (by decide)

theorem newline_notMem_firstLine (text : Text) : '\n' ∉ firstLine text := fun h => by
  simpa using List.mem_takeWhile_imp h

/-- Of the first line, blanks at the end of a text are only those at the end of the line. -/
theorem trimRight_firstLine_trimRight (text : Text) :
    trimRight (firstLine (trimRight text)) = trimRight (firstLine text) := by
  induction text with
  | nil => rfl
  | cons c rest ih =>
    rw [trimRight_cons]
    by_cases hc : c = '\n'
    · -- The first line is empty, whether its newline is kept or not.
      subst hc
      split
      · rfl
      · rfl
    · rw [firstLine_cons hc]
      split
      · next hdrop =>
        obtain ⟨hblank, hrest⟩ := hdrop
        rw [hrest] at ih
        rw [trimRight_cons, if_pos ⟨hblank, ih.symm⟩]
        rfl
      · rw [firstLine_cons hc, trimRight_cons_congr ih c]

theorem trim_firstLine_trimRight (text : Text) :
    trim (firstLine (trimRight text)) = trim (firstLine text) := by
  rw [← trimLeft_trimRight, trimRight_firstLine_trimRight, trimLeft_trimRight]

/-- Blanks at the start of a text take the blank lines away, up to the first line with text. -/
theorem trim_firstLine_trimLeft (text : Text) :
    trim (firstLine (trimLeft text)) = (firstUnblankLine? text).elim [] trim := by
  induction text with
  | nil => rfl
  | cons c rest ih =>
    obtain ⟨first, others, hlines⟩ := List.exists_cons_of_ne_nil (lines_ne_nil rest)
    unfold firstUnblankLine? at ih ⊢
    rw [trimLeft_cons]
    cases hc : isBlank c with
    | true =>
      rw [if_pos rfl, ih]
      by_cases hnewline : c = '\n'
      · rw [hnewline, lines_newline_cons]
        rfl
      · -- A blank before the line changes neither whether it has text nor what is trimmed of it.
        have hblank : allBlank (c :: first) = allBlank first := by simp [allBlank, hc]
        have htrim : trim (c :: first) = trim first := by
          rw [trim, trimLeft_cons, if_pos hc, ← trim]
        rw [lines_cons hnewline hlines, hlines, List.find?_cons, List.find?_cons, hblank]
        cases allBlank first with
        | true => rfl
        | false => exact htrim.symm
    | false =>
      have hnewline : c ≠ '\n' := ne_newline_of_unblank hc
      have hunblank : allBlank (c :: first) = false := by simp [allBlank, hc]
      rw [if_neg (by simp), firstLine_eq (lines_cons hnewline hlines), lines_cons hnewline hlines,
        List.find?_cons, hunblank]
      rfl

/-- The first line of a trimmed text begins with what the text begins with. -/
theorem firstLine_of_trim_eq_cons {text rest : Text} {c : Char} (h : trim text = c :: rest) :
    isBlank c = false ∧ firstLine (trim text) = c :: firstLine rest := by
  have hc : isBlank c = false := (tidy_of_trim_eq_cons h).1
  rw [h, firstLine_cons (ne_newline_of_unblank hc)]
  exact ⟨hc, rfl⟩

theorem trimLeft_firstLine_trim (text : Text) :
    trimLeft (firstLine (trim text)) = firstLine (trim text) := by
  cases htext : trim text with
  | nil => rfl
  | cons c rest =>
    obtain ⟨hc, hfirst⟩ := firstLine_of_trim_eq_cons htext
    rw [← htext, hfirst, trimLeft_cons, hc]
    rfl

end Text

/-! ## The subject line -/

variable (message : Text)

theorem subjectLine_eq_firstUnblankLine? :
    subjectLine message = (firstUnblankLine? message).elim [] trim :=
  calc
    subjectLine message
    _ = trim (firstLine (trimRight (trimLeft message))) := subjectLine_eq message
    _ = trim (firstLine (trimLeft message)) := trim_firstLine_trimRight _
    _ = (firstUnblankLine? message).elim [] trim := trim_firstLine_trimLeft message

/-- A commit shows the line that its message is judged by. -/
theorem Commit.subject_eq (commit : Commit) : commit.subject = subjectLine commit.message :=
  (subjectLine_eq commit.message).symm

theorem newline_notMem_subjectLine : '\n' ∉ subjectLine message := by
  rw [subjectLine_eq]
  exact fun h => newline_notMem_firstLine _ (trim_subset _ h)

/-- Only a blank message has no subject. -/
theorem subjectLine_eq_nil_iff {message : Text} : subjectLine message = [] ↔ trim message = [] := by
  constructor
  · intro h
    rw [subjectLine_eq, trim, trimLeft_firstLine_trim, trimRight_eq_nil_iff] at h
    cases htext : trim message with
    | nil => rfl
    | cons c rest =>
      -- What a trimmed message begins with stays in its first line.
      obtain ⟨hc, hfirst⟩ := firstLine_of_trim_eq_cons htext
      rw [hfirst] at h
      simp [allBlank, hc] at h
  · exact fun h => if_pos h

/-- An item begins with a dash and the subject. -/
theorem Notes.head?_item : (item message).head? = some ("- ".toList ++ subjectLine message) := by
  obtain ⟨first, rest, hlines⟩ := List.exists_cons_of_ne_nil (lines_ne_nil (trim message))
  have hsubject : subjectLine message = trimRight first := by
    rw [subjectLine_eq, trim, trimLeft_firstLine_trim, firstLine_eq hlines]
  rw [item_eq hlines, hsubject]
  rfl

/-- The rules judge the subject, and a message without one is not judged. -/
theorem classify_eq_of_subjectLine :
    classify message =
      if subjectLine message = [] then .other
      else (matchingCategories message (subjectLine message)).headD .other := by
  simp only [classify, subjectLine_eq_nil_iff, trim_eq_nil_iff]

/--
There is one subject of a message: its first line that has text, trimmed, or nothing if it is blank.
This is what the rules judge, what a commit of any category shows as its subject, and what its item
in the notes begins with. It is a single line without blanks at its edges, and empty only for a
blank message.
-/
theorem subject_everywhere :
    let subject := (firstUnblankLine? message).elim [] trim
    subjectLine message = subject ∧
      (classify message =
        if subject = [] then .other else (matchingCategories message subject).headD .other) ∧
      (∀ category, (Commit.mk message category).subject = subject) ∧
      (Notes.item message).head? = some ("- ".toList ++ subject) ∧
      '\n' ∉ subject ∧
      (∀ c ∈ subject.head?, isBlank c = false) ∧ (∀ c ∈ subject.getLast?, isBlank c = false) ∧
      (subject = [] ↔ trim message = []) := by
  intro subject
  have hsubject : subjectLine message = subject := subjectLine_eq_firstUnblankLine? message
  rw [← hsubject]
  have hedges : subjectLine message = trim (firstLine (trim message)) := subjectLine_eq message
  refine ⟨rfl, classify_eq_of_subjectLine message, fun _ => Commit.subject_eq _,
    Notes.head?_item message, newline_notMem_subjectLine message, ?_, ?_, subjectLine_eq_nil_iff⟩
  · rw [hedges]
    exact fun _ => isBlank_head_trim
  · rw [hedges]
    exact fun _ => isBlank_getLast_trim

/-- The blank lines before the subject end in various ways, and one of its edges is no ASCII. -/
example : subjectLine "\r\n\u2003\n \u00a0feat: a \r\nb".toList = "feat: a".toList := by decide

end NextRelease
