import NextRelease.Proofs.Settings.Table
import NextRelease.Proofs.Text.Tidy
import NextRelease.Proofs.Version.Reading

/-!
# Prefixes that begin with a blank

Any text may be configured as the prefix of tags, but a tag is trimmed before the prefix is taken
off. A prefix that begins with a blank is therefore never found again: what it leaves after trimming
stays in front of the version (`tagBody_written_of_blank`). Then the tags of all versions are read
back only if nothing is left, or a `v`, which may stand before any version.

That tags are read back under every prefix is false: a tag may fall back to zero, or be read as
another version without any advisory.
-/

namespace NextRelease

open Text

/-! ## The body of a written tag -/

theorem trimLeft_append {rest : Text} (h : ∀ c ∈ rest.head?, isBlank c = false) (front : Text) :
    trimLeft (front ++ rest) = trimLeft front ++ rest := by
  rw [trimLeft, trimLeft, List.dropWhile_append]
  split
  · next hfront =>
    rw [List.isEmpty_iff.mp hfront, List.nil_append]
    cases rest with
    | nil => rfl
    | cons c rest => simp [h c rfl]
  · rfl

/-- Trimming takes the blanks in front of the prefix away, and the digits at the end stay. -/
theorem trim_written (tagPrefix : Text) (v : Version) :
    trim (tagPrefix ++ v.text) = trimLeft tagPrefix ++ v.text := by
  have hhead : ∀ c ∈ v.text.head?, isBlank c = false := fun c hc =>
    Version.isBlank_of_mem_text (List.mem_of_mem_head? hc)
  rw [trim, trimLeft_append hhead, trimRight_eq_rdropWhile, List.rdropWhile_eq_self_iff]
  intro hne
  have hlast := List.getLast?_eq_some_getLast hne
  rw [List.getLast?_append_of_ne_nil _ v.text_ne_nil] at hlast
  simp [Version.isBlank_of_mem_text (List.mem_of_mem_getLast? hlast)]

/-- The trimmed tag does not begin with the blank that the prefix begins with. -/
theorem tagBody_written_of_blank {tagPrefix : Text} (h : ¬StartsUnblank tagPrefix) (v : Version) :
    tagBody tagPrefix (tagPrefix ++ v.text) = trimLeft tagPrefix ++ v.text := by
  have hnot : tagPrefix.isPrefixOf (trim (tagPrefix ++ v.text)) = false := by
    rw [← Bool.not_eq_true, List.isPrefixOf_iff_prefix]
    rintro ⟨rest, hrest⟩
    have hhead : ∀ c ∈ tagPrefix.head?, c ∈ (trim (tagPrefix ++ v.text)).head? := by
      rw [← hrest]
      exact fun _ => List.mem_head?_append_of_mem_head?
    exact h fun c hc => isBlank_head_trim (hhead c hc)
  rw [tagBody, dropStart, hnot, trim_written]
  rfl

/-! ## Versions that are read back -/

/-- The tag that is written for the version under the prefix is read as the version. -/
def ReadsBack (tagPrefix : Text) (v : Version) : Prop :=
  ∃ written, v.tag tagPrefix = .ok written ∧ readTag tagPrefix (some written) = .ok ⟨v, none⟩

theorem readsBack_iff {tagPrefix : Text} {v : Version} (hv : v.IsWritable) :
    ReadsBack tagPrefix v ↔ ∃ digits rest,
      HasTagForm (tagBody tagPrefix (tagPrefix ++ v.text)) digits rest ∧
        digits.firstLong? = none ∧ digits.value = v := by
  constructor
  · rintro ⟨written, hwritten, hread⟩
    obtain ⟨_, rfl⟩ := Version.tag_eq_ok_iff.mp hwritten
    rcases readTag_eq_ok_cases hread with ⟨digits, hruns, hshort, hversion⟩ | ⟨_, hfallback⟩
    · obtain ⟨text, rest, htext, hform⟩ := hruns
      obtain rfl := Option.some.inj htext
      exact ⟨digits, rest, hform, hshort, (TagReading.mk.inj hversion).1.symm⟩
    · cases hfallback
  · rintro ⟨digits, rest, hform, hshort, rfl⟩
    refine ⟨_, Version.tag_eq_ok_iff.mpr ⟨hv, rfl⟩, ?_⟩
    rw [readTag_of_tagHasRuns ⟨_, rest, rfl, hform⟩,
      ComponentDigits.version_eq_ok_iff.mpr ⟨hshort, rfl⟩]
    rfl

/-! ## What may be left in front of a version -/

theorem dropStart_append {c : Char} {rest : Text} (h : ∀ d ∈ rest.head?, d ≠ c) (front : Text) :
    dropStart [c] (front ++ rest) = dropStart [c] front ++ rest := by
  cases front with
  | nil =>
    cases rest with
    | nil => rfl
    | cons d rest => simp [dropStart, (h d rfl).symm]
  | cons d front =>
    by_cases hd : c = d
    · simp [dropStart, hd]
    · simp [dropStart, hd]

namespace ComponentDigits

/-- The first run reaches up to the first dot. -/
theorem takeWhile_dotted {digits : ComponentDigits} (h : digits.AreRuns) (rest : Text) :
    (digits.dotted ++ rest).takeWhile (· ≠ '.') = digits.major := by
  have hdot : '.' ∉ digits.major := by
    intro hmem
    obtain ⟨_, hall⟩ := h digits.major (by simp)
    exact absurd (List.all_eq_true.mp hall _ hmem) (by decide)
  have hfirst : digits.dotted ++ rest =
      digits.major ++ '.' :: (digits.minor ++ '.' :: digits.patch ++ rest) := by simp [dotted]
  rw [hfirst]
  exact takeWhile_append_mark hdot _

end ComponentDigits

/-- The text begins with digit runs that have the version as their value and are not too long. -/
def Spells (text : Text) (v : Version) (digits : ComponentDigits) : Prop :=
  digits.AreRuns ∧ digits.firstLong? = none ∧ digits.value = v ∧
    ∃ rest, text = digits.dotted ++ rest

namespace Spells

variable {text : Text} {v : Version} {digits : ComponentDigits} (h : Spells text v digits)
include h

theorem takeWhile_eq : text.takeWhile (· ≠ '.') = digits.major := by
  obtain ⟨hruns, _, _, rest, rfl⟩ := h
  exact ComponentDigits.takeWhile_dotted hruns rest

theorem digitsValue_eq : digitsValue (text.takeWhile (· ≠ '.')) = v.major := by
  rw [takeWhile_eq h]
  obtain ⟨_, _, rfl, _⟩ := h
  rfl

theorem length_le : (text.takeWhile (· ≠ '.')).length ≤ numeralLimit := by
  rw [takeWhile_eq h]
  exact ComponentDigits.firstLong?_eq_none_iff.mp h.2.1 _ (by simp [ComponentDigits.runs])

end Spells

/-- A version whose major component has as many digits as are allowed. -/
def longVersion : Version := ⟨10 ^ (numeralLimit - 1), 0, 0⟩

theorem isWritable_longVersion : longVersion.IsWritable where
  major_lt := Nat.pow_lt_pow_right (by decide) (by decide)
  minor_lt := Nat.pow_pos (by decide)
  patch_lt := Nat.pow_pos (by decide)

theorem numeralLimit_le_length_longVersion :
    numeralLimit ≤ (decimal longVersion.major).length := by
  by_contra hlt
  have hle : (decimal longVersion.major).length ≤ numeralLimit - 1 := by omega
  exact absurd ((Nat.length_toDigits_le_iff (by decide) (by decide)).mp hle) (Nat.lt_irrefl _)

section

variable {left : Text}
  (h : ∀ v : Version, v.IsWritable → ∃ digits, Spells (left ++ v.text) v digits)
include h

/-- A dot in front of the versions would fix the major component. -/
theorem dot_notMem_of_forall_spells : '.' ∉ left := by
  intro hdot
  obtain ⟨front, back, rfl, hfront⟩ := List.eq_append_cons_of_mem hdot
  have hmajor : ∀ v : Version, v.IsWritable → digitsValue front = v.major := by
    intro v hv
    obtain ⟨digits, hspells⟩ := h v hv
    rw [← hspells.digitsValue_eq, List.append_assoc, List.cons_append,
      takeWhile_append_mark hfront]
  have hsame : longVersion.major = Version.zero.major :=
    (hmajor _ isWritable_longVersion).symm.trans (hmajor _ Version.isWritable_zero)
  exact absurd hsame (Nat.ne_of_gt (Nat.pow_pos (by decide)))

/-- Anything else in front of the versions would lengthen the longest major component. -/
theorem eq_nil_of_forall_spells : left = [] := by
  obtain ⟨digits, hspells⟩ := h longVersion isWritable_longVersion
  have hmajor : '.' ∉ left ++ decimal longVersion.major := by
    simp [dot_notMem_of_forall_spells h, notMem_decimal]
  have hfirst : left ++ longVersion.text = (left ++ decimal longVersion.major) ++
      '.' :: (decimal longVersion.minor ++ '.' :: decimal longVersion.patch) := by
    simp [Version.text]
  have hlength := hspells.length_le
  rw [hfirst, takeWhile_append_mark hmajor, List.length_append] at hlength
  have hlimit := numeralLimit_le_length_longVersion
  exact List.eq_nil_of_length_eq_zero (by omega)

end

/-! ## Which prefixes do no harm -/

theorem dropStart_eq_nil_iff {c : Char} {text : Text} :
    dropStart [c] text = [] ↔ text = [] ∨ text = [c] := by
  constructor
  · exact eq_or_eq_cons_of_dropStart
  · rintro (rfl | rfl)
    · rfl
    · simp [dropStart]

/-- A version that can be written is read back if it stands alone, perhaps after a `v`. -/
theorem readsBack_of_dropStart {tagPrefix left : Text} {v : Version} (hv : v.IsWritable)
    (hbody : tagBody tagPrefix (tagPrefix ++ v.text) = left ++ v.text)
    (hleft : dropStart ['v'] left = []) : ReadsBack tagPrefix v := by
  obtain ⟨hshort, hvalue⟩ := ComponentDigits.version_eq_ok_iff.mp (Version.version_digits hv)
  have hform := v.hasTagForm_text
  refine (readsBack_iff hv).mpr ⟨v.digits, [], ⟨hform.runs, hform.rest_not_digit, ?_⟩, hshort,
    hvalue.symm⟩
  rw [hbody]
  rcases dropStart_eq_nil_iff.mp hleft with rfl | rfl
  · left
    simp [Version.digits, ComponentDigits.dotted, Version.text]
  · right
    simp [Version.digits, ComponentDigits.dotted, Version.text]

/-- Under a prefix that begins with a blank, all depends on what trimming leaves of it. -/
theorem forall_readsBack_iff_of_blank {tagPrefix : Text} (h : ¬StartsUnblank tagPrefix) :
    (∀ v : Version, v.IsWritable → ReadsBack tagPrefix v) ↔
      dropStart ['v'] (trimLeft tagPrefix) = [] := by
  constructor
  · intro hall
    refine eq_nil_of_forall_spells fun v hv => ?_
    obtain ⟨digits, rest, hform, hshort, hvalue⟩ := (readsBack_iff hv).mp (hall v hv)
    rw [tagBody_written_of_blank h] at hform
    have hhead : ∀ c ∈ v.text.head?, c ≠ 'v' := by
      rintro c hc rfl
      rcases Version.mem_text (List.mem_of_mem_head? hc) with hdigit | hdot
      · exact absurd hdigit (by decide)
      · exact absurd hdot (by decide)
    refine ⟨digits, hform.runs, hshort, hvalue, rest, ?_⟩
    rw [← dropStart_append hhead]
    exact ComponentDigits.dropStart_of_hasTagForm hform
  · exact fun hleft v hv => readsBack_of_dropStart hv (tagBody_written_of_blank h v) hleft

/--
Every text is accepted as the prefix of tags. Under it the tag of every version that can be written
is read back as the version, without an advisory, exactly if the prefix begins with no blank, or if
it consists of blanks only or of blanks and a `v`.
-/
theorem forall_readsBack_iff (tagPrefix : Text) :
    Settings.ofTable [("tag_prefix".toList, .text tagPrefix)] = .ok { tagPrefix } ∧
      ((∀ v : Version, v.IsWritable → ReadsBack tagPrefix v) ↔
        StartsUnblank tagPrefix ∨ trimLeft tagPrefix = [] ∨ trimLeft tagPrefix = ['v']) := by
  refine ⟨Settings.ofTable_tagPrefix tagPrefix, ?_⟩
  by_cases h : StartsUnblank tagPrefix
  · refine iff_of_true (fun v hv => ?_) (.inl h)
    have hwritten : v.tag tagPrefix = .ok (tagPrefix ++ v.text) :=
      Version.tag_eq_ok_iff.mpr ⟨hv, rfl⟩
    exact ⟨_, hwritten, readTag_of_tag_eq_ok h hwritten⟩
  · rw [forall_readsBack_iff_of_blank h, dropStart_eq_nil_iff, or_iff_right h]

/-- A tag falls back to zero under one accepted prefix, and gains a digit under another one. -/
theorem blankPrefix_not_read_back :
    (∃ settings written,
      Settings.ofTable [("tag_prefix".toList, .text " release-".toList)] = .ok settings ∧
      Version.tag settings.tagPrefix ⟨1, 2, 3⟩ = .ok written ∧
      readTag settings.tagPrefix (some written) =
        .ok ⟨.zero, some ⟨some written, " release-".toList⟩⟩) ∧
    ∃ settings written,
      Settings.ofTable [("tag_prefix".toList, .text " 1".toList)] = .ok settings ∧
      Version.tag settings.tagPrefix ⟨1, 2, 3⟩ = .ok written ∧
      readTag settings.tagPrefix (some written) = .ok ⟨⟨11, 2, 3⟩, none⟩ :=
  ⟨⟨_, _, rfl, rfl, rfl⟩, ⟨_, _, rfl, rfl, rfl⟩⟩

end NextRelease
