import NextRelease.Proofs.Failure
import NextRelease.Proofs.Text.Trim
import NextRelease.Version.TagForm

/-!
# Tags are read back

A body of the form of a tag is read as its digit runs, and the written version has this form. So a
tag that was written is read as the version it was written for, under the same prefix, unless the
prefix begins with a blank: trimming the tag takes that blank away.
-/

namespace NextRelease

open Text

/-! ## Reading a body of the form of a tag -/

theorem leadingDigits?_append {digits rest : Text} (hne : digits ≠ [])
    (hdigits : digits.all isDigit) (hrest : rest.head?.all (!isDigit ·)) :
    leadingDigits? (digits ++ rest) = some (digits, rest) := by
  have hall : ∀ c ∈ digits, isDigit c = true := List.all_eq_true.mp hdigits
  have htake : rest.takeWhile isDigit = [] := by
    cases rest with
    | nil => rfl
    | cons c rest =>
      have hc : isDigit c = false := by simpa using hrest
      simp [hc]
  have hdrop : rest.dropWhile isDigit = rest := by
    simpa [htake] using List.takeWhile_append_dropWhile (p := isDigit) (l := rest)
  simp [leadingDigits?, List.takeWhile_append_of_pos hall, List.dropWhile_append_of_pos hall, htake,
    hdrop, hne]

theorem dottedDigits?_append {digits : Text} (hne : digits ≠ []) (hdigits : digits.all isDigit)
    (rest : Text) : dottedDigits? (digits ++ '.' :: rest) = some (digits, rest) := by
  have hdot : ('.' :: rest).head?.all (!isDigit ·) := by
    simp only [List.head?_cons, Option.all_some]
    decide
  simp [dottedDigits?, leadingDigits?_append hne hdigits hdot]

namespace ComponentDigits

theorem dropStart_dotted {digits : ComponentDigits} (h : digits.AreRuns) (rest : Text) :
    dropStart ['v'] (digits.dotted ++ rest) = digits.dotted ++ rest := by
  obtain ⟨hne, hall⟩ := h digits.major (by simp)
  cases hmajor : digits.major with
  | nil => exact absurd hmajor hne
  | cons c run =>
    have hc : 'v' ≠ c := by
      rintro rfl
      rw [hmajor] at hall
      exact absurd hall (by simp [show isDigit 'v' = false by decide])
    simp [dropStart, dotted, hmajor, hc]

theorem dropStart_of_hasTagForm {body rest : Text} {digits : ComponentDigits}
    (h : HasTagForm body digits rest) : dropStart ['v'] body = digits.dotted ++ rest := by
  rcases h.body_eq with rfl | rfl
  · exact dropStart_dotted h.runs rest
  · simp [dropStart]

/-- A body of the form of a tag is read as its digit runs. -/
theorem ofStart?_of_hasTagForm {body rest : Text} {digits : ComponentDigits}
    (h : HasTagForm body digits rest) : ofStart? body = some digits := by
  have hbody := dropStart_of_hasTagForm h
  obtain ⟨hmajor, hmajor'⟩ := h.runs digits.major (by simp)
  obtain ⟨hminor, hminor'⟩ := h.runs digits.minor (by simp)
  obtain ⟨hpatch, hpatch'⟩ := h.runs digits.patch (by simp)
  simp [ofStart?, hbody, dotted, dottedDigits?_append hmajor hmajor',
    dottedDigits?_append hminor hminor', leadingDigits?_append hpatch hpatch' h.rest_not_digit]

end ComponentDigits

theorem HasTagForm.append {body rest : Text} {digits : ComponentDigits}
    (h : HasTagForm body digits []) (hrest : rest.head?.all (!isDigit ·)) :
    HasTagForm (body ++ rest) digits rest where
  runs := h.runs
  rest_not_digit := hrest
  body_eq := by
    rcases h.body_eq with rfl | rfl
    · left
      simp
    · right
      simp

/-! ## Written versions -/

namespace Version

/-- Every component has few enough digits to be written. -/
structure IsWritable (v : Version) : Prop where
  major_lt : v.major < 10 ^ numeralLimit
  minor_lt : v.minor < 10 ^ numeralLimit
  patch_lt : v.patch < 10 ^ numeralLimit

theorem isWritable_zero : zero.IsWritable := by
  have hpos : 0 < 10 ^ numeralLimit := Nat.pow_pos (by decide)
  exact ⟨hpos, hpos, hpos⟩

/-- The digit runs of the written version. -/
def digits (v : Version) : ComponentDigits := ⟨decimal v.major, decimal v.minor, decimal v.patch⟩

theorem write_eq_ok_iff {v : Version} {text : Text} :
    v.write = .ok text ↔ v.IsWritable ∧ text = v.text := by
  simp only [write, bind_eq_ok_iff, pure_eq_ok_iff, writeNumber_eq_ok_iff]
  constructor
  · rintro ⟨major, ⟨hmajor, rfl⟩, minor, ⟨hminor, rfl⟩, patch, ⟨hpatch, rfl⟩, rfl⟩
    exact ⟨⟨hmajor, hminor, hpatch⟩, rfl⟩
  · rintro ⟨⟨hmajor, hminor, hpatch⟩, rfl⟩
    exact ⟨_, ⟨hmajor, rfl⟩, _, ⟨hminor, rfl⟩, _, ⟨hpatch, rfl⟩, rfl⟩

theorem write_eq_error_iff {v : Version} {failure : Failure} :
    v.write = .error failure ↔ ¬v.IsWritable ∧ failure = .numberTooLong := by
  have hcause : ∀ {found}, v.write = .error found → found = .numberTooLong := by
    simp only [write, bind_eq_error_iff, writeNumber_eq_error_iff, pure_ne_error, and_false,
      exists_false, or_false]
    rintro found (⟨_, rfl⟩ | ⟨_, _, ⟨_, rfl⟩ | ⟨_, _, _, rfl⟩⟩)
    · rfl
    · rfl
    · rfl
  constructor
  · intro h
    refine ⟨fun hv => ?_, hcause h⟩
    simp [write_eq_ok_iff.mpr ⟨hv, rfl⟩] at h
  · rintro ⟨hnot, rfl⟩
    cases hwrite : v.write with
    | ok text => exact absurd (write_eq_ok_iff.mp hwrite).1 hnot
    | error found => rw [hcause hwrite]

theorem tag_eq_ok_iff {v : Version} {tagPrefix text : Text} :
    v.tag tagPrefix = .ok text ↔ v.IsWritable ∧ text = tagPrefix ++ v.text := by
  simp only [tag, bind_eq_ok_iff, pure_eq_ok_iff, write_eq_ok_iff]
  constructor
  · rintro ⟨written, ⟨hv, rfl⟩, rfl⟩
    exact ⟨hv, rfl⟩
  · rintro ⟨hv, rfl⟩
    exact ⟨_, ⟨hv, rfl⟩, rfl⟩

theorem hasTagForm_text (v : Version) : HasTagForm v.text v.digits [] where
  runs := by
    intro run hrun
    obtain ⟨n, rfl⟩ : ∃ n, run = decimal n := by
      simp only [digits, List.mem_cons, List.not_mem_nil, or_false] at hrun
      rcases hrun with h | h | h
      · exact ⟨_, h⟩
      · exact ⟨_, h⟩
      · exact ⟨_, h⟩
    refine ⟨decimal_ne_nil n, List.all_eq_true.mpr fun c hc => ?_⟩
    exact isDigit_of_basic (isDigit_of_mem_decimal hc)
  rest_not_digit := rfl
  body_eq := by simp [digits, ComponentDigits.dotted, text]

theorem digits_injective : Function.Injective digits := by
  intro v w h
  obtain ⟨hmajor, hminor, hpatch⟩ := ComponentDigits.mk.inj h
  cases v
  cases w
  rw [Version.mk.injEq]
  exact ⟨decimal_injective hmajor, decimal_injective hminor, decimal_injective hpatch⟩

/-- A written version can be told from what follows it, unless that begins with a digit. -/
theorem text_append_inj {v w : Version} {rest other : Text} (hrest : rest.head?.all (!isDigit ·))
    (hother : other.head?.all (!isDigit ·)) (h : v.text ++ rest = w.text ++ other) :
    v = w ∧ rest = other := by
  have hv := ComponentDigits.ofStart?_of_hasTagForm (v.hasTagForm_text.append hrest)
  have hw := ComponentDigits.ofStart?_of_hasTagForm (w.hasTagForm_text.append hother)
  rw [h, hw] at hv
  obtain rfl : w = v := digits_injective (Option.some.inj hv)
  exact ⟨rfl, List.append_cancel_left h⟩

/-- The digit runs of a version that can be written are those of the version. -/
theorem version_digits {v : Version} (h : v.IsWritable) : v.digits.version = .ok v := by
  simp only [ComponentDigits.version, bind_eq_ok_iff, pure_eq_ok_iff]
  exact ⟨_, readNumber_decimal h.major_lt, _, readNumber_decimal h.minor_lt, _,
    readNumber_decimal h.patch_lt, rfl⟩

/-- A written version consists of basic digits and dots. -/
theorem mem_text {v : Version} {c : Char} (h : c ∈ v.text) : c.isDigit = true ∨ c = '.' := by
  simp only [text, List.mem_append, List.mem_cons] at h
  rcases h with (h | rfl | h) | rfl | h
  · exact .inl (isDigit_of_mem_decimal h)
  · exact .inr rfl
  · exact .inl (isDigit_of_mem_decimal h)
  · exact .inr rfl
  · exact .inl (isDigit_of_mem_decimal h)

theorem newline_notMem_text (v : Version) : '\n' ∉ v.text := by
  intro h
  rcases mem_text h with h | h
  · exact absurd h (by decide)
  · exact absurd h (by decide)

theorem isBlank_of_mem_text {v : Version} {c : Char} (h : c ∈ v.text) : isBlank c = false := by
  rcases mem_text h with h | rfl
  · exact isBlank_of_basic h
  · decide

theorem text_ne_nil (v : Version) : v.text ≠ [] := by simp [text]

end Version

/-! ## Tags -/

/-- The prefix of tags is whole after trimming: it is empty or begins with no blank. -/
def StartsUnblank (tagPrefix : Text) : Prop := ∀ c ∈ tagPrefix.head?, isBlank c = false

instance (tagPrefix : Text) : Decidable (StartsUnblank tagPrefix) :=
  match tagPrefix with
  | [] => isTrue (by simp [StartsUnblank])
  | c :: _ => decidable_of_iff (isBlank c = false) (by simp [StartsUnblank])

theorem trim_tagPrefix_append {tagPrefix : Text} (h : StartsUnblank tagPrefix) (v : Version) :
    trim (tagPrefix ++ v.text) = tagPrefix ++ v.text := by
  -- The first character may come from the prefix, the last one is always a digit.
  refine trim_eq_self (fun c hc => ?_) fun c hc => ?_
  · cases tagPrefix with
    | nil => exact Version.isBlank_of_mem_text (List.mem_of_mem_head? hc)
    | cons first rest => exact h c (by simpa using hc)
  · rw [List.getLast?_append_of_ne_nil _ v.text_ne_nil] at hc
    exact Version.isBlank_of_mem_text (List.mem_of_mem_getLast? hc)

/-- A tag is read as the version it was written for. -/
theorem readTag_of_tag_eq_ok {tagPrefix written : Text} (h : StartsUnblank tagPrefix) {v : Version}
    (hwritten : v.tag tagPrefix = .ok written) :
    readTag tagPrefix (some written) = .ok ⟨v, none⟩ := by
  obtain ⟨hv, rfl⟩ := Version.tag_eq_ok_iff.mp hwritten
  have hbody : tagBody tagPrefix (tagPrefix ++ v.text) = v.text := by
    simp [tagBody, trim_tagPrefix_append h, dropStart]
  simp only [readTag, Option.bind_some, hbody,
    ComponentDigits.ofStart?_of_hasTagForm v.hasTagForm_text, Version.version_digits hv]
  rfl

end NextRelease
