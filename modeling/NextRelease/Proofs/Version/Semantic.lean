import NextRelease.Proofs.Version.ReadBack
import NextRelease.Version.Semantic

/-!
# Written versions as semantic versions

The numbers of a written version never have superfluous zeros, so what follows the version decides
alone whether the whole is a semantic version: it must be a pre-release after a hyphen and a build
after a plus sign, both optional. No identifier holds a plus sign, so the only plus sign of such a
text is the one before the build.
-/

namespace NextRelease

open Text

namespace Semantic

/-! ## Numbers -/

/-- A zero in front would leave fewer digits for the same value. -/
theorem hasLeadingZero_decimal (n : Nat) : hasLeadingZero (decimal n) = false := by
  by_contra hzero
  unfold hasLeadingZero at hzero
  split at hzero
  · next d rest hdecimal =>
    have hvalue : n < 10 ^ (d :: rest).length := by
      have htail : digitsValue (decimal n) = digitsValue (d :: rest) := by
        rw [hdecimal]
        rfl
      rw [← digitsValue_decimal n, htail]
      exact digitsValue_lt _
    have hlength := (Nat.length_toDigits_le_iff (by decide) (by simp)).mpr hvalue
    rw [← decimal, hdecimal, List.length_cons] at hlength
    omega
  · exact hzero rfl

theorem isNumber_decimal (n : Nat) : isNumber (decimal n) = true := by
  have hdigits : (decimal n).all isDigit = true :=
    List.all_eq_true.mpr fun _ hc => isDigit_of_mem_decimal hc
  simp [isNumber, decimal_ne_nil, hdigits, hasLeadingZero_decimal]

/-- A number is a run of digits, as the components of a tag are. -/
theorem isNumber_isRun {text : Text} (h : isNumber text = true) :
    text ≠ [] ∧ text.all Text.isDigit = true := by
  simp only [isNumber, Bool.and_eq_true, decide_eq_true_eq] at h
  refine ⟨h.1.1, List.all_eq_true.mpr fun c hc => ?_⟩
  exact isDigit_of_basic (List.all_eq_true.mp h.1.2 c hc)

/-! ## Identifiers -/

theorem isIdentifierChar_of_isDigit {c : Char} (h : isDigit c = true) :
    isIdentifierChar c = true := by
  simp [isIdentifierChar, h]

/-- An identifier in front of which a letter or a hyphen is put is no number. -/
theorem isPreRelease_cons {c : Char} {rest : Text} (hc : isIdentifierChar c = true)
    (hdigit : isDigit c = false) (hrest : rest.all isIdentifierChar = true) :
    isPreRelease (c :: rest) = true := by
  have hchars : ∀ d ∈ c :: rest, isIdentifierChar d = true := by
    simpa [hc] using hrest
  -- A dot is no identifier character, so the text is a single identifier.
  have hsplit : split (· = '.') (c :: rest) = [c :: rest] :=
    split_eq_singleton fun hdot => absurd (hchars _ hdot) (by decide)
  have hidentifier : isIdentifier (c :: rest) = true := by
    simpa [isIdentifier] using hchars
  simp [isPreRelease, hsplit, isPreReleaseIdentifier, hidentifier, hdigit]

theorem isBuild_of_isPreRelease {text : Text} (h : isPreRelease text = true) :
    isBuild text = true := by
  refine List.all_eq_true.mpr fun piece hpiece => ?_
  have hidentifier := List.all_eq_true.mp h piece hpiece
  rw [isPreReleaseIdentifier, Bool.and_eq_true] at hidentifier
  exact hidentifier.1

/-- Neither part of a semantic version holds a plus sign. -/
theorem plus_notMem_of_isBuild {text : Text} (h : isBuild text = true) : '+' ∉ text := by
  intro hplus
  obtain ⟨piece, hpiece, hmem⟩ : ∃ piece ∈ split (· = '.') text, '+' ∈ piece :=
    exists_mem_split hplus (by decide)
  have hidentifier := List.all_eq_true.mp h piece hpiece
  rw [isIdentifier, Bool.and_eq_true] at hidentifier
  exact absurd (List.all_eq_true.mp hidentifier.2 _ hmem) (by decide)

end Semantic

/-! ## Versions with a suffix -/

namespace Version

open Semantic Semantic.Parts

/-- What follows a written version in a semantic version is its two optional parts. -/
theorem isSemantic_text_append_iff {v : Version} {rest : Text}
    (hrest : rest.head?.all (!Text.isDigit ·)) :
    IsSemantic (v.text ++ rest) ↔ ∃ preRelease build : Option Text,
      preRelease.all isPreRelease = true ∧ build.all isBuild = true ∧
        rest = marked '-' preRelease ++ marked '+' build := by
  constructor
  · rintro ⟨⟨major, minor, patch, preRelease, build⟩, hvalid, htext⟩
    simp only [isValid, Bool.and_eq_true] at hvalid
    obtain ⟨⟨⟨⟨hmajor, hminor⟩, hpatch⟩, hpreRelease⟩, hbuild⟩ := hvalid
    refine ⟨preRelease, build, hpreRelease, hbuild, ?_⟩
    -- The numbers are the digit runs of the text, which are those of the version.
    have hform : HasTagForm (v.text ++ rest) ⟨major, minor, patch⟩
        (marked '-' preRelease ++ marked '+' build) := by
      refine ⟨?_, ?_, .inl ?_⟩
      · simp only [ComponentDigits.AreRuns, List.forall_mem_cons, List.not_mem_nil, false_imp_iff,
          implies_true, and_true]
        exact ⟨isNumber_isRun hmajor, isNumber_isRun hminor, isNumber_isRun hpatch⟩
      · cases preRelease with
        | some part => rfl
        | none => cases build <;> rfl
      · rw [← htext]
        simp [Parts.text, ComponentDigits.dotted]
    have hdigits := ComponentDigits.ofStart?_of_hasTagForm (v.hasTagForm_text.append hrest)
    rw [ComponentDigits.ofStart?_of_hasTagForm hform] at hdigits
    obtain ⟨rfl, rfl, rfl⟩ := ComponentDigits.mk.inj (Option.some.inj hdigits)
    have htail : v.text ++ rest = v.text ++ (marked '-' preRelease ++ marked '+' build) := by
      rw [← htext]
      simp [Parts.text, Version.text]
    exact List.append_cancel_left htail
  · rintro ⟨preRelease, build, hpreRelease, hbuild, rfl⟩
    refine ⟨⟨decimal v.major, decimal v.minor, decimal v.patch, preRelease, build⟩, ?_, ?_⟩
    · simp [isValid, isNumber_decimal, hpreRelease, hbuild]
    · simp [Parts.text, Version.text]

theorem isSemantic_text (v : Version) : IsSemantic v.text := by
  rw [← List.append_nil v.text]
  exact (isSemantic_text_append_iff rfl).mpr ⟨none, none, rfl, rfl, rfl⟩

/-- Of a suffix with both parts, the first plus sign is the only one. -/
theorem isSemantic_text_append_marked_iff {v : Version} {preRelease build : Text} :
    IsSemantic (v.text ++ ('-' :: preRelease ++ '+' :: build)) ↔
      isPreRelease preRelease = true ∧ isBuild build = true := by
  rw [isSemantic_text_append_iff rfl]
  constructor
  · rintro ⟨found, after, hfound, hafter, htext⟩
    cases found with
    | none => cases after <;> simp [marked] at htext
    | some found =>
      have hplus : '+' ∉ found := plus_notMem_of_isBuild (isBuild_of_isPreRelease hfound)
      have htail : preRelease ++ '+' :: build = found ++ marked '+' after := by
        simpa [marked] using htext
      cases after with
      | none =>
        have hmem : '+' ∈ preRelease ++ '+' :: build := by simp
        rw [htail] at hmem
        exact absurd (by simpa [marked] using hmem) hplus
      | some after =>
        have hplus' : '+' ∉ preRelease := by
          -- The right side holds a single plus sign, so the left one does.
          have hcount := congrArg (List.count '+') htail
          simp only [marked, List.count_append, List.count_cons_self,
            List.count_eq_zero.mpr hplus,
            List.count_eq_zero.mpr (plus_notMem_of_isBuild hafter)] at hcount
          exact List.count_eq_zero.mp (by omega)
        obtain ⟨rfl, rfl⟩ := append_mark_inj hplus' hplus htail
        exact ⟨hfound, hafter⟩
  · rintro ⟨hpreRelease, hbuild⟩
    exact ⟨some preRelease, some build, hpreRelease, hbuild, rfl⟩

end Version

end NextRelease
