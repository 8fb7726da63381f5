import Mathlib.Data.Nat.Digits.Defs
import NextRelease.Proofs.Version.Reading

/-!
# The grammar of version tags

A tag is read by its body: the trimmed tag, without the prefix of tags if it begins with it. A body
stands for a version exactly if it is composed of an optional `v`, three runs of digits with dots
between them, and a rest that begins with no digit. A body has at most one such composition, so the
grammar is unambiguous and settles the reading (`readTag_grammar`): the values of the runs, a
refusal of the first run that is too long, or the fallback with its advisory.
-/

namespace NextRelease

open Text

/-! ## The value of a run -/

namespace Text

/-- The run has these digits, of whatever script, from the left to the right. -/
def HasDigits (run : Text) (digits : List Nat) : Prop := run.map digitValue? = digits.map some

theorem exists_hasDigits {run : Text} (h : run.all isDigit) : ∃ digits, HasDigits run digits := by
  induction run with
  | nil => exact ⟨[], rfl⟩
  | cons c rest ih =>
    simp only [List.all_cons, Bool.and_eq_true] at h
    obtain ⟨hc, hrest⟩ := h
    obtain ⟨digits, hdigits⟩ := ih hrest
    obtain ⟨digit, hdigit⟩ := Option.isSome_iff_exists.mp hc
    refine ⟨digit :: digits, ?_⟩
    show digitValue? c :: rest.map digitValue? = some digit :: digits.map some
    rw [hdigit, hdigits]

/-- Reading a run from the left gives the number with its digits, the last of which counts ones. -/
theorem digitsValue_of_hasDigits {run : Text} {digits : List Nat} (h : HasDigits run digits) :
    digitsValue run = Nat.ofDigits 10 digits.reverse := by
  -- Backward induction: the last digit is the first one of the reversed digits.
  induction run using List.reverseRecOn generalizing digits with
  | nil =>
    have hnil : digits = [] := List.map_eq_nil_iff.mp h.symm
    rw [hnil]
    rfl
  | append_singleton front c ih =>
    cases digits using List.reverseRecOn with
    | nil => simp [HasDigits] at h
    | append_singleton digits digit =>
      simp only [HasDigits, List.map_append, List.map_cons, List.map_nil] at h
      obtain ⟨hfront, hlast⟩ := List.append_inj' h rfl
      have hdigit : digitValue? c = some digit := List.head_eq_of_cons_eq hlast
      have hreverse : (digits ++ [digit]).reverse = digit :: digits.reverse := by simp
      rw [digitsValue_concat, ih hfront, hdigit, hreverse, Nat.ofDigits_cons]
      exact Nat.add_comm _ _

end Text

/-! ## The body of a tag -/

/-- The prefix of tags is taken off the trimmed tag once, if the trimmed tag begins with it. -/
theorem tagBody_of_trim_eq {tagPrefix text body : Text} (h : trim text = tagPrefix ++ body) :
    tagBody tagPrefix text = body := by
  rw [tagBody, dropStart, h, if_pos (List.isPrefixOf_iff_prefix.mpr (List.prefix_append _ _))]
  exact List.drop_left

/-- Otherwise the body is the trimmed tag. -/
theorem tagBody_of_not_prefix {tagPrefix text : Text} (h : ¬tagPrefix <+: trim text) :
    tagBody tagPrefix text = trim text := by
  rw [tagBody, dropStart, if_neg]
  intro hprefix
  exact h (List.isPrefixOf_iff_prefix.mp hprefix)

/-! ## The composition of a body -/

/-- Perhaps a `v`, the digit runs, and what follows them. -/
structure TagParts where
  hasV : Bool
  digits : ComponentDigits
  rest : Text
  deriving DecidableEq, Repr

namespace TagParts

def text (parts : TagParts) : Text :=
  (if parts.hasV then ['v'] else []) ++ parts.digits.dotted ++ parts.rest

/-- The body consists of these parts, of which no run could be longer. -/
structure Compose (parts : TagParts) (body : Text) : Prop where
  runs : parts.digits.AreRuns
  rest_not_digit : parts.rest.head?.all (!isDigit ·)
  text_eq : parts.text = body

variable {parts other : TagParts} {body : Text}

theorem Compose.hasTagForm (h : parts.Compose body) :
    HasTagForm body parts.digits parts.rest where
  runs := h.runs
  rest_not_digit := h.rest_not_digit
  body_eq := by
    rw [← h.text_eq, text]
    cases parts.hasV with
    | false => exact .inl rfl
    | true => exact .inr rfl

theorem exists_compose_iff {digits : ComponentDigits} :
    (∃ parts : TagParts, parts.Compose body ∧ parts.digits = digits) ↔
      ∃ rest, HasTagForm body digits rest := by
  constructor
  · rintro ⟨parts, hparts, rfl⟩
    exact ⟨parts.rest, hparts.hasTagForm⟩
  · rintro ⟨rest, hruns, hrest, hbody⟩
    cases hbody with
    | inl hbare => exact ⟨⟨false, digits, rest⟩, ⟨hruns, hrest, hbare.symm⟩, rfl⟩
    | inr hmarked => exact ⟨⟨true, digits, rest⟩, ⟨hruns, hrest, hmarked.symm⟩, rfl⟩

/-- The grammar is unambiguous: a body is composed in one way at most. -/
theorem Compose.unique (h : parts.Compose body) (hother : other.Compose body) : other = parts := by
  have hdigits : other.digits = parts.digits := by
    have hread := ComponentDigits.ofStart?_of_hasTagForm h.hasTagForm
    rw [ComponentDigits.ofStart?_of_hasTagForm hother.hasTagForm] at hread
    exact Option.some.inj hread
  -- Behind the `v`, which no run of digits begins with, both bodies are the same text.
  have hrest : other.rest = parts.rest := by
    have hdrop := ComponentDigits.dropStart_of_hasTagForm h.hasTagForm
    rw [ComponentDigits.dropStart_of_hasTagForm hother.hasTagForm, hdigits] at hdrop
    exact List.append_cancel_left hdrop
  have hlength : other.text.length = parts.text.length := by rw [h.text_eq, hother.text_eq]
  have hasV : other.hasV = parts.hasV := by
    rw [text, text, hdigits, hrest] at hlength
    cases hfirst : other.hasV with
    | false =>
      cases hsecond : parts.hasV with
      | false => rfl
      | true => simp [hfirst, hsecond] at hlength
    | true =>
      cases hsecond : parts.hasV with
      | false => simp [hfirst, hsecond] at hlength
      | true => rfl
  cases other
  cases parts
  rw [mk.injEq]
  exact ⟨hasV, hdigits, hrest⟩

/-- Three components have two dots between them. -/
theorem Compose.two_le_count_dot (h : parts.Compose body) : 2 ≤ body.count '.' := by
  have hdotted : 2 ≤ parts.digits.dotted.count '.' := by
    simp only [ComponentDigits.dotted, List.cons_append, List.append_assoc, List.count_append,
      List.count_cons_self]
    omega
  rw [← h.text_eq, text, List.count_append, List.count_append]
  omega

/-- A tag is read by the composition of its body. -/
theorem Compose.tagHasRuns {tagPrefix text : Text} (h : parts.Compose (tagBody tagPrefix text)) :
    TagHasRuns tagPrefix (some text) parts.digits :=
  ⟨text, parts.rest, rfl, h.hasTagForm⟩

theorem not_tagHasRuns {tagPrefix text : Text}
    (h : ∀ parts : TagParts, ¬parts.Compose (tagBody tagPrefix text)) (digits : ComponentDigits) :
    ¬TagHasRuns tagPrefix (some text) digits := by
  rintro ⟨found, rest, hfound, hform⟩
  obtain rfl := Option.some.inj hfound
  obtain ⟨parts, hparts, _⟩ := exists_compose_iff.mpr ⟨rest, hform⟩
  exact h parts hparts

end TagParts

/-! ## The reading of a tag -/

section

variable {tagPrefix : Text} {tag : Option Text} {digits : ComponentDigits}

/-- A tag of the form gives the values of its runs unless one of them is too long. -/
theorem readTag_eq_ok_iff_of_tagHasRuns (h : TagHasRuns tagPrefix tag digits) :
    readTag tagPrefix tag = .ok ⟨digits.value, none⟩ ↔
      ∀ run ∈ digits.runs, run.length ≤ numeralLimit := by
  rw [← ComponentDigits.firstLong?_eq_none_iff]
  constructor
  · intro hread
    cases hlong : digits.firstLong? with
    | none => rfl
    | some run =>
      rw [readTag_eq_error_iff.mpr ⟨digits, run, h, hlong, rfl⟩] at hread
      cases hread
  · intro hshort
    rw [readTag_of_tagHasRuns h, ComponentDigits.version_eq_ok_iff.mpr ⟨hshort, rfl⟩]
    rfl

/-- It is refused for its first run that is too long, and for no other reason. -/
theorem readTag_eq_error_iff_of_tagHasRuns (h : TagHasRuns tagPrefix tag digits)
    {failure : Failure} :
    readTag tagPrefix tag = .error failure ↔
      ∃ run, digits.firstLong? = some run ∧ failure = .numeralTooLong run.length := by
  rw [readTag_eq_error_iff]
  constructor
  · rintro ⟨other, run, hother, hlong, hfailure⟩
    obtain rfl := tagHasRuns_unique h hother
    exact ⟨run, hlong, hfailure⟩
  · rintro ⟨run, hlong, hfailure⟩
    exact ⟨digits, run, h, hlong, hfailure⟩

end

/--
Tags are read exactly by their grammar. The body of a tag is the trimmed text, less one occurrence
of a non-empty prefix of tags that it begins with. If the body is composed of an optional `v`, three
non-empty runs of digits with dots between them and a rest without a digit in front, then in one way
only, and the tag is read as the version of the decimal values of the runs, without an advisory;
only if a run has more digits than the limit, leading zeros included, reading fails instead, and the
first such run is the reason. Any other tag, such as one with fewer than two dots in its body, and a
missing one stand for zero, with an advisory that holds the tag and the prefix.
-/
theorem readTag_grammar (tagPrefix : Text) :
    readTag tagPrefix none = .ok ⟨.zero, some ⟨none, tagPrefix⟩⟩ ∧
    ∀ text : Text, ∃ body,
      (∀ rest, tagPrefix ≠ [] → trim text = tagPrefix ++ rest → body = rest) ∧
      (tagPrefix = [] ∨ ¬tagPrefix <+: trim text → body = trim text) ∧
      (∀ parts : TagParts, parts.Compose body →
        (∀ other : TagParts, other.Compose body → other = parts) ∧
        (∀ run ∈ parts.digits.runs, ∃ digits,
          HasDigits run digits ∧ digitsValue run = Nat.ofDigits 10 digits.reverse) ∧
        (readTag tagPrefix (some text) = .ok ⟨parts.digits.value, none⟩ ↔
          ∀ run ∈ parts.digits.runs, run.length ≤ numeralLimit) ∧
        ∀ failure, readTag tagPrefix (some text) = .error failure ↔
          ∃ run, parts.digits.firstLong? = some run ∧ failure = .numeralTooLong run.length) ∧
      ((∀ parts : TagParts, ¬parts.Compose body) →
        readTag tagPrefix (some text) = .ok ⟨.zero, some ⟨some text, tagPrefix⟩⟩) ∧
      (body.count '.' < 2 → ∀ parts : TagParts, ¬parts.Compose body) := by
  constructor
  · rfl
  · intro text
    refine ⟨tagBody tagPrefix text, ?_, ?_, ?_, ?_, ?_⟩
    · intro rest _ htrim
      exact tagBody_of_trim_eq htrim
    · rintro (hempty | hnot)
      · rw [hempty]
        exact tagBody_of_trim_eq rfl
      · exact tagBody_of_not_prefix hnot
    · intro parts hparts
      refine ⟨fun other hother => hparts.unique hother, ?_, ?_, fun failure => ?_⟩
      · intro run hrun
        obtain ⟨_, hdigits⟩ := hparts.runs run hrun
        obtain ⟨digits, hhas⟩ := exists_hasDigits hdigits
        exact ⟨digits, hhas, digitsValue_of_hasDigits hhas⟩
      · exact readTag_eq_ok_iff_of_tagHasRuns hparts.tagHasRuns
      · exact readTag_eq_error_iff_of_tagHasRuns hparts.tagHasRuns
    · intro hnone
      exact readTag_of_not_tagHasRuns (TagParts.not_tagHasRuns hnone)
    · intro hcount parts hparts
      exact absurd hparts.two_le_count_dot (Nat.not_le.mpr hcount)

/-- Leading zeros, digits of another script and any text behind the patch are accepted. -/
example : readTag "v1".toList (some "v1v\u0661.002.3x".toList) = .ok ⟨⟨1, 2, 3⟩, none⟩ := rfl

end NextRelease
