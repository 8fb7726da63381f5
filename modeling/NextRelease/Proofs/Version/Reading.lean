import NextRelease.Proofs.Version.ReadBack

/-!
# What a tag is read as

A body is read as digit runs exactly if it has the form of a tag with these runs, so the form
settles what a tag stands for. Reading fails only if a run has too many digits, and then the first
such run is the reason. A tag of another form, and a missing one, never fails: it falls back to
zero.
-/

namespace NextRelease

open Text

/-! ## Reading a body -/

theorem leadingDigits?_eq_some {text digits rest : Text}
    (h : leadingDigits? text = some (digits, rest)) :
    text = digits ++ rest ∧ digits ≠ [] ∧ digits.all isDigit ∧ rest.head?.all (!isDigit ·) := by
  simp only [leadingDigits?, Option.ite_none_left_eq_some, Option.some.injEq, Prod.mk.injEq] at h
  obtain ⟨hne, rfl, rfl⟩ := h
  refine ⟨List.takeWhile_append_dropWhile.symm, hne, List.all_takeWhile, ?_⟩
  have hhead := List.head?_dropWhile_not isDigit text
  cases hrest : (text.dropWhile isDigit).head? with
  | none => rfl
  | some c =>
    rw [hrest] at hhead
    simpa using hhead

theorem dottedDigits?_eq_some {text digits rest : Text}
    (h : dottedDigits? text = some (digits, rest)) :
    text = digits ++ '.' :: rest ∧ digits ≠ [] ∧ digits.all isDigit := by
  unfold dottedDigits? at h
  split at h
  · next found after hleading =>
    obtain ⟨rfl, rfl⟩ : found = digits ∧ after = rest := by simpa using h
    obtain ⟨htext, hne, hdigits, _⟩ := leadingDigits?_eq_some hleading
    exact ⟨htext, hne, hdigits⟩
  · simp at h

theorem eq_or_eq_cons_of_dropStart {c : Char} {text rest : Text} (h : dropStart [c] text = rest) :
    text = rest ∨ text = c :: rest := by
  unfold dropStart at h
  split at h
  · next hprefix =>
    obtain ⟨after, rfl⟩ := List.isPrefixOf_iff_prefix.mp hprefix
    exact .inr (by simpa using h)
  · exact .inl h

namespace ComponentDigits

/-- Only a body of the form of a tag is read as digit runs, and the form has these runs. -/
theorem hasTagForm_of_ofStart? {body : Text} {digits : ComponentDigits}
    (h : ofStart? body = some digits) : ∃ rest, HasTagForm body digits rest := by
  simp only [ofStart?, Option.bind_eq_bind, Option.bind_eq_some_iff, Option.pure_def,
    Option.some.injEq, Prod.exists] at h
  obtain ⟨major, afterMajor, hmajor, minor, afterMinor, hminor, patch, rest, hpatch, rfl⟩ := h
  obtain ⟨hbody, hmajorNe, hmajorDigits⟩ := dottedDigits?_eq_some hmajor
  obtain ⟨rfl, hminorNe, hminorDigits⟩ := dottedDigits?_eq_some hminor
  obtain ⟨rfl, hpatchNe, hpatchDigits, hrest⟩ := leadingDigits?_eq_some hpatch
  refine ⟨rest, ?_, hrest, ?_⟩
  · simp only [AreRuns, List.mem_cons, List.not_mem_nil, or_false]
    rintro run (rfl | rfl | rfl)
    · exact ⟨hmajorNe, hmajorDigits⟩
    · exact ⟨hminorNe, hminorDigits⟩
    · exact ⟨hpatchNe, hpatchDigits⟩
  · simpa [dotted] using eq_or_eq_cons_of_dropStart hbody

theorem ofStart?_eq_some_iff {body : Text} {digits : ComponentDigits} :
    ofStart? body = some digits ↔ ∃ rest, HasTagForm body digits rest :=
  ⟨hasTagForm_of_ofStart?, fun ⟨_, hform⟩ => ofStart?_of_hasTagForm hform⟩

/-! ## The version of digit runs -/

def runs (digits : ComponentDigits) : List Text := [digits.major, digits.minor, digits.patch]

/-- The version with the values of the digit runs, however long they are. -/
def value (digits : ComponentDigits) : Version :=
  ⟨digitsValue digits.major, digitsValue digits.minor, digitsValue digits.patch⟩

/-- The first run with more digits than are allowed. -/
def firstLong? (digits : ComponentDigits) : Option Text :=
  digits.runs.find? fun run => numeralLimit < run.length

theorem firstLong?_eq_none_iff {digits : ComponentDigits} :
    digits.firstLong? = none ↔ ∀ run ∈ digits.runs, run.length ≤ numeralLimit := by
  simp [firstLong?]

theorem version_eq_ok_iff {digits : ComponentDigits} {v : Version} :
    digits.version = .ok v ↔ digits.firstLong? = none ∧ v = digits.value := by
  simp only [firstLong?_eq_none_iff, runs, List.forall_mem_cons, List.not_mem_nil, false_imp_iff,
    implies_true, and_true, version, bind_eq_ok_iff, pure_eq_ok_iff, readNumber_eq_ok_iff]
  constructor
  · rintro ⟨major, ⟨hmajor, rfl⟩, minor, ⟨hminor, rfl⟩, patch, ⟨hpatch, rfl⟩, rfl⟩
    exact ⟨⟨hmajor, hminor, hpatch⟩, rfl⟩
  · rintro ⟨⟨hmajor, hminor, hpatch⟩, rfl⟩
    exact ⟨_, ⟨hmajor, rfl⟩, _, ⟨hminor, rfl⟩, _, ⟨hpatch, rfl⟩, rfl⟩

/-- The first run that is too long is the one that the failure tells the length of. -/
theorem version_eq_error_iff {digits : ComponentDigits} {failure : Failure} :
    digits.version = .error failure ↔
      ∃ run, digits.firstLong? = some run ∧ failure = .numeralTooLong run.length := by
  simp only [version, bind_eq_error_iff, readNumber_eq_error_iff, readNumber_eq_ok_iff,
    pure_ne_error, and_false, exists_false, or_false, firstLong?, runs]
  by_cases hmajor : numeralLimit < digits.major.length
  · simp [hmajor, Nat.not_le.mpr hmajor]
  · by_cases hminor : numeralLimit < digits.minor.length
    · simp [hmajor, hminor, Nat.le_of_not_lt hmajor, Nat.not_le.mpr hminor]
    · by_cases hpatch : numeralLimit < digits.patch.length
      · simp [hmajor, hminor, hpatch, Nat.le_of_not_lt hmajor, Nat.le_of_not_lt hminor]
      · simp [hmajor, hminor, hpatch]

/-- The values of runs that are short enough can be written. -/
theorem isWritable_value {digits : ComponentDigits} (h : digits.firstLong? = none) :
    digits.value.IsWritable := by
  have hlt : ∀ run ∈ digits.runs, digitsValue run < 10 ^ numeralLimit := fun run hrun =>
    digitsValue_lt_of_length_le (firstLong?_eq_none_iff.mp h run hrun)
  exact ⟨hlt _ (by simp [runs]), hlt _ (by simp [runs]), hlt _ (by simp [runs])⟩

end ComponentDigits

/-! ## Tags -/

/-- What is read of a tag has the form of a tag, with these digit runs. -/
def TagHasRuns (tagPrefix : Text) (tag : Option Text) (digits : ComponentDigits) : Prop :=
  ∃ text rest, tag = some text ∧ HasTagForm (tagBody tagPrefix text) digits rest

/-- The version that a tag stands for: that of its digit runs, and zero without that form. -/
inductive TagStandsFor (tagPrefix : Text) (tag : Option Text) : Version → Prop
  | runs {digits : ComponentDigits} (h : TagHasRuns tagPrefix tag digits) :
    TagStandsFor tagPrefix tag digits.value
  | fallback (h : ∀ digits, ¬TagHasRuns tagPrefix tag digits) :
    TagStandsFor tagPrefix tag .zero

section

variable {tagPrefix : Text} {tag : Option Text}

theorem tagHasRuns_iff {digits : ComponentDigits} :
    TagHasRuns tagPrefix tag digits ↔
      (tag.bind fun text => ComponentDigits.ofStart? (tagBody tagPrefix text)) = some digits := by
  simp [TagHasRuns, Option.bind_eq_some_iff, ComponentDigits.ofStart?_eq_some_iff]

/-- A tag has at most one form. -/
theorem tagHasRuns_unique {digits other : ComponentDigits} (h : TagHasRuns tagPrefix tag digits)
    (hother : TagHasRuns tagPrefix tag other) : digits = other := by
  rw [tagHasRuns_iff] at h hother
  exact Option.some.inj (h.symm.trans hother)

/-- The tag that is written for a version has the runs of its written form. -/
theorem tagHasRuns_written (h : StartsUnblank tagPrefix) (v : Version) :
    TagHasRuns tagPrefix (some (tagPrefix ++ v.text)) v.digits := by
  refine ⟨_, [], rfl, ?_⟩
  have hbody : tagBody tagPrefix (tagPrefix ++ v.text) = v.text := by
    simp [tagBody, trim_tagPrefix_append h, dropStart]
  rw [hbody]
  exact v.hasTagForm_text

/-- A tag of the form is read as its digit runs are. -/
theorem readTag_of_tagHasRuns {digits : ComponentDigits} (h : TagHasRuns tagPrefix tag digits) :
    readTag tagPrefix tag = digits.version.map (⟨·, none⟩) := by
  simp only [readTag, tagHasRuns_iff.mp h]
  cases digits.version with
  | error failure => rfl
  | ok version => rfl

/-- A tag has not the form if no digit runs are found at the start of what is read of it. -/
theorem forall_not_tagHasRuns_iff :
    (∀ digits, ¬TagHasRuns tagPrefix tag digits) ↔
      (tag.bind fun text => ComponentDigits.ofStart? (tagBody tagPrefix text)) = none := by
  rw [Option.eq_none_iff_forall_ne_some]
  exact forall_congr' fun _ => not_congr tagHasRuns_iff

/-- A tag of another form, and a missing one, is read as zero, with an advisory. -/
theorem readTag_of_not_tagHasRuns (h : ∀ digits, ¬TagHasRuns tagPrefix tag digits) :
    readTag tagPrefix tag = .ok ⟨.zero, some ⟨tag, tagPrefix⟩⟩ := by
  rw [readTag, forall_not_tagHasRuns_iff.mp h]

/-- Only a tag of the form that has too long a run fails to be read. -/
theorem readTag_eq_error_iff {failure : Failure} :
    readTag tagPrefix tag = .error failure ↔
      ∃ digits run, TagHasRuns tagPrefix tag digits ∧ digits.firstLong? = some run ∧
        failure = .numeralTooLong run.length := by
  constructor
  · intro h
    by_cases hform : ∃ digits, TagHasRuns tagPrefix tag digits
    · obtain ⟨digits, hruns⟩ := hform
      rw [readTag_of_tagHasRuns hruns] at h
      cases hversion : digits.version with
      | ok version => simp [hversion, Except.map] at h
      | error found =>
        obtain ⟨run, hrun, rfl⟩ := ComponentDigits.version_eq_error_iff.mp hversion
        refine ⟨digits, run, hruns, hrun, ?_⟩
        simpa [hversion, Except.map, eq_comm] using h
    · rw [readTag_of_not_tagHasRuns (not_exists.mp hform)] at h
      simp at h
  · rintro ⟨digits, run, hruns, hrun, rfl⟩
    rw [readTag_of_tagHasRuns hruns, ComponentDigits.version_eq_error_iff.mpr ⟨run, hrun, rfl⟩]
    rfl

theorem readTag_eq_ok_cases {reading : TagReading} (h : readTag tagPrefix tag = .ok reading) :
    (∃ digits, TagHasRuns tagPrefix tag digits ∧ digits.firstLong? = none ∧
        reading = ⟨digits.value, none⟩) ∨
      (∀ digits, ¬TagHasRuns tagPrefix tag digits) ∧
        reading = ⟨.zero, some ⟨tag, tagPrefix⟩⟩ := by
  by_cases hform : ∃ digits, TagHasRuns tagPrefix tag digits
  · obtain ⟨digits, hruns⟩ := hform
    rw [readTag_of_tagHasRuns hruns] at h
    cases hversion : digits.version with
    | error failure => simp [hversion, Except.map] at h
    | ok version =>
      obtain ⟨hshort, rfl⟩ := ComponentDigits.version_eq_ok_iff.mp hversion
      refine .inl ⟨digits, hruns, hshort, ?_⟩
      simpa [hversion, Except.map, eq_comm] using h
  · rw [readTag_of_not_tagHasRuns (not_exists.mp hform)] at h
    exact .inr ⟨not_exists.mp hform, (Except.ok.inj h).symm⟩

end

end NextRelease
