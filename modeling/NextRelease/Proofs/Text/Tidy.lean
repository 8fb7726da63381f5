import NextRelease.Proofs.Text.Trim

/-!
# What layout leaves of a text

Tidying takes blanks away at the edges of a text and at the ends of its lines, and nothing else. A
tidied text is trimmed, and its lines are those of the trimmed text, each without the blanks at its
end. So a word that stays on one line and begins and ends with characters that are not blank is
found in the tidied text exactly if it is found in the text, and carriage returns before newlines
leave no trace.
-/

namespace NextRelease.Text

/-! ## Trimming what is trimmed -/

theorem isBlank_head_trim {text : Text} {c : Char} (h : c ∈ (trim text).head?) :
    isBlank c = false := by
  -- Trimming on the right keeps the first character, unless nothing is left.
  obtain ⟨rest, hrest⟩ := List.head?_eq_some_iff.mp h
  obtain ⟨blanks, hblanks⟩ : trim text <+: trimLeft text := List.rdropWhile_prefix isBlank _
  have hhead := List.head?_dropWhile_not isBlank text
  rw [← trimLeft, ← hblanks, hrest] at hhead
  exact hhead

theorem trimRight_trimRight (text : Text) : trimRight (trimRight text) = trimRight text :=
  List.rdropWhile_idempotent isBlank text

/-- A blank is taken off only if nothing but blanks follows. -/
theorem trimRight_cons (c : Char) (rest : Text) :
    trimRight (c :: rest) =
      if isBlank c = true ∧ trimRight rest = [] then [] else c :: trimRight rest := by
  simp only [trimRight, List.reverse_cons, List.dropWhile_append, List.reverse_eq_nil_iff,
    List.isEmpty_iff]
  by_cases hrest : rest.reverse.dropWhile isBlank = []
  · cases hc : isBlank c with
    | true => simp [hrest, hc]
    | false => simp [hrest, hc]
  · simp [hrest]

theorem trimRight_cons_congr {first second : Text} (h : trimRight first = trimRight second)
    (c : Char) : trimRight (c :: first) = trimRight (c :: second) := by
  rw [trimRight_cons, trimRight_cons, h]

theorem trimLeft_cons (c : Char) (rest : Text) :
    trimLeft (c :: rest) = if isBlank c = true then trimLeft rest else c :: rest :=
  List.dropWhile_cons

/-- Both edges are trimmed independently of each other. -/
theorem trimLeft_trimRight (text : Text) : trimLeft (trimRight text) = trim text := by
  induction text with
  | nil => rfl
  | cons c rest ih =>
    rw [trim, trimLeft_cons, trimRight_cons]
    cases hc : isBlank c with
    | true =>
      by_cases hrest : trimRight rest = []
      · rw [if_pos ⟨rfl, hrest⟩, if_pos rfl, ← trim, ← ih, hrest]
      · rw [if_neg (fun h => hrest h.2), if_pos rfl, ← trim, ← ih, trimLeft_cons, if_pos hc]
    | false =>
      rw [if_neg (by simp), if_neg (by simp), trimLeft_cons, trimRight_cons, if_neg (by simp [hc]),
        if_neg (by simp [hc])]

theorem trim_trimRight (text : Text) : trim (trimRight text) = trim text := by
  rw [trim, trimLeft_trimRight, trim, trimRight_trimRight]

/-! ## The ends of lines -/

/-- The text without blanks at the ends of its lines. -/
def trimLines (text : Text) : Text := joinLines ((lines text).map trimRight)

theorem tidy_eq (text : Text) : tidy text = trimLines (trim text) := rfl

theorem lines_trimLines (text : Text) : lines (trimLines text) = (lines text).map trimRight := by
  refine lines_joinLines (by simp [lines_ne_nil]) fun line hline => ?_
  obtain ⟨line, hmem, rfl⟩ := List.mem_map.mp hline
  exact fun hnewline => newline_notMem_of_mem_lines hmem (mem_of_mem_trimRight hnewline)

/-- A character is kept, unless it is a blank. -/
theorem trimLines_cons (c : Char) (rest : Text) :
    trimLines (c :: rest) = c :: trimLines rest ∨
      isBlank c = true ∧ trimLines (c :: rest) = trimLines rest := by
  obtain ⟨first, others, hlines⟩ := List.exists_cons_of_ne_nil (lines_ne_nil rest)
  by_cases hc : c = '\n'
  · left
    rw [hc, trimLines, trimLines, lines_newline_cons, List.map_cons]
    exact joinLines_cons [] (by simp [lines_ne_nil])
  · rw [trimLines, trimLines, lines_cons hc hlines, hlines, List.map_cons, List.map_cons,
      trimRight_cons]
    split
    · next hdrop =>
      right
      rw [hdrop.2]
      exact ⟨hdrop.1, rfl⟩
    · left
      exact joinLines_cons_cons c _ _

theorem trimLines_cons_of_unblank {c : Char} (h : isBlank c = false) (rest : Text) :
    trimLines (c :: rest) = c :: trimLines rest := by
  rcases trimLines_cons c rest with hkept | ⟨hblank, _⟩
  · exact hkept
  · simp [h] at hblank

/-- A last character that is not blank stays the last one. -/
theorem getLast?_trimLines {text : Text} (h : ∀ c ∈ text.getLast?, isBlank c = false) :
    (trimLines text).getLast? = text.getLast? := by
  induction text with
  | nil => rfl
  | cons c rest ih =>
    cases rest with
    | nil =>
      rw [trimLines_cons_of_unblank (h c rfl)]
      rfl
    | cons d rest =>
      have hrest := ih (by simpa using h)
      rw [List.getLast?_cons_cons, ← hrest]
      rcases trimLines_cons c (d :: rest) with hkept | ⟨_, hdropped⟩
      · rw [hkept, List.getLast?_cons, hrest, List.getLast?_cons]
        rfl
      · rw [hdropped]

/-! ## Tidied texts -/

theorem lines_tidy (text : Text) : lines (tidy text) = (lines (trim text)).map trimRight :=
  lines_trimLines (trim text)

/-- The first character of a trimmed text stays the first one. -/
theorem tidy_of_trim_eq_cons {text rest : Text} {c : Char} (h : trim text = c :: rest) :
    isBlank c = false ∧ tidy text = c :: trimLines rest := by
  have hc : isBlank c = false := isBlank_head_trim (by rw [h]; exact Option.mem_some_self c)
  refine ⟨hc, ?_⟩
  rw [tidy_eq, h]
  exact trimLines_cons_of_unblank hc rest

theorem tidy_eq_nil_iff {text : Text} : tidy text = [] ↔ allBlank text = true := by
  rw [← trim_eq_nil_iff]
  constructor
  · intro htidy
    cases htext : trim text with
    | nil => rfl
    | cons c rest =>
      rw [(tidy_of_trim_eq_cons htext).2] at htidy
      cases htidy
  · intro htext
    rw [tidy_eq, htext]
    rfl

/-- Nothing is left to trim of a tidied text. -/
theorem trim_tidy (text : Text) : trim (tidy text) = tidy text := by
  refine trim_eq_self (fun c hc => ?_) fun c hc => ?_
  · cases htext : trim text with
    | nil =>
      rw [tidy_eq, htext] at hc
      cases hc
    | cons d rest =>
      obtain ⟨hd, htidy⟩ := tidy_of_trim_eq_cons htext
      rw [htidy] at hc
      rwa [← Option.mem_some_iff.mp hc]
  · rw [tidy_eq, getLast?_trimLines fun _ => isBlank_getLast_trim] at hc
    exact isBlank_getLast_trim hc

theorem allBlank_tidy (text : Text) : allBlank (tidy text) = allBlank text := by
  rw [Bool.eq_iff_iff, ← trim_eq_nil_iff, trim_tidy, tidy_eq_nil_iff]

/-! ## Words that layout leaves whole -/

/-- A word that stays on one line and neither begins nor ends with a blank. -/
structure IsSolid (word : Text) : Prop where
  newline_notMem : '\n' ∉ word
  head_unblank : ∀ c ∈ word.head?, isBlank c = false
  last_unblank : ∀ c ∈ word.getLast?, isBlank c = false

theorem infix_trimLeft_iff {word : Text} (h : ∀ c ∈ word.head?, isBlank c = false) (text : Text) :
    word <:+: trimLeft text ↔ word <:+: text := by
  induction text with
  | nil => rfl
  | cons c rest ih =>
    rw [trimLeft_cons]
    split
    · next hc =>
      rw [ih, List.infix_cons_iff]
      refine ⟨.inr, fun hfound => hfound.elim (fun hstart => ?_) id⟩
      -- Only the empty word begins with the blank, for it does not begin with anything.
      cases word with
      | nil => exact List.nil_infix
      | cons d word =>
        rw [(List.cons_prefix_cons.mp hstart).1] at h
        simp [hc] at h
    · rfl

theorem infix_trimRight_iff {word : Text} (h : ∀ c ∈ word.getLast?, isBlank c = false)
    (text : Text) : word <:+: trimRight text ↔ word <:+: text := by
  have hreverse : word.reverse <:+: trimLeft text.reverse ↔ word.reverse <:+: text.reverse :=
    infix_trimLeft_iff (by simpa using h) text.reverse
  rw [List.reverse_infix] at hreverse
  rw [← hreverse, ← List.reverse_infix, trimRight, List.reverse_reverse, trimLeft]

/-- A word without a newline stands on one side of a newline. -/
theorem infix_append_newline_iff {word : Text} (h : '\n' ∉ word) (line rest : Text) :
    word <:+: line ++ '\n' :: rest ↔ word <:+: line ∨ word <:+: rest := by
  constructor
  · intro hfound
    rcases List.infix_append_iff_ne_nil.mp hfound with hline | hrest | ⟨front, back, hsplit⟩
    · exact .inl hline
    · rcases List.infix_cons_iff.mp hrest with hstart | hrest
      · cases word with
        | nil => exact .inl List.nil_infix
        | cons c word =>
          rw [(List.cons_prefix_cons.mp hstart).1] at h
          exact absurd List.mem_cons_self h
      · exact .inr hrest
    · -- A word across the newline would hold it.
      obtain ⟨_, hback, rfl, _, hstart⟩ := hsplit
      obtain ⟨c, back, rfl⟩ := List.exists_cons_of_ne_nil hback
      rw [(List.cons_prefix_cons.mp hstart).1] at h
      exact absurd (List.mem_append_right front List.mem_cons_self) h
  · rintro (hline | hrest)
    · exact List.infix_append_of_infix_left hline
    · exact List.infix_append_of_infix_right (List.infix_cons hrest)

theorem infix_joinLines_iff {word : Text} (h : '\n' ∉ word) {pieces : List Text}
    (hne : pieces ≠ []) : word <:+: joinLines pieces ↔ ∃ line ∈ pieces, word <:+: line := by
  induction pieces with
  | nil => exact absurd rfl hne
  | cons line rest ih =>
    cases rest with
    | nil => simp [joinLines, join]
    | cons next rest =>
      rw [joinLines_cons line (by simp), infix_append_newline_iff h, ih (by simp)]
      simp

/-- A word without a newline stands on one of the lines. -/
theorem infix_lines_iff {word : Text} (h : '\n' ∉ word) (text : Text) :
    word <:+: text ↔ ∃ line ∈ lines text, word <:+: line := by
  rw [← infix_joinLines_iff h (lines_ne_nil text), joinLines_lines]

/-- Layout neither makes a solid word nor breaks one. -/
theorem IsSolid.infix_tidy_iff {word : Text} (h : IsSolid word) (text : Text) :
    word <:+: tidy text ↔ word <:+: text :=
  calc
    word <:+: tidy text
    _ ↔ ∃ line ∈ lines (tidy text), word <:+: line := infix_lines_iff h.newline_notMem _
    _ ↔ ∃ line ∈ lines (trim text), word <:+: trimRight line := by simp [lines_tidy]
    _ ↔ ∃ line ∈ lines (trim text), word <:+: line := by
      simp only [infix_trimRight_iff h.last_unblank]
    _ ↔ word <:+: trim text := (infix_lines_iff h.newline_notMem _).symm
    _ ↔ word <:+: text := by
      rw [trim, infix_trimRight_iff h.last_unblank, infix_trimLeft_iff h.head_unblank]

/-! ## Carriage returns -/

/-- The text with a carriage return before every newline. -/
def withCarriageReturns (text : Text) : Text :=
  text.flatMap fun c => if c = '\n' then ['\r', '\n'] else [c]

theorem withCarriageReturns_newline (rest : Text) :
    withCarriageReturns ('\n' :: rest) = '\r' :: '\n' :: withCarriageReturns rest := rfl

theorem withCarriageReturns_cons {c : Char} (hc : c ≠ '\n') (rest : Text) :
    withCarriageReturns (c :: rest) = c :: withCarriageReturns rest := by
  simp [withCarriageReturns, hc]

theorem withCarriageReturns_eq_nil_iff {text : Text} :
    withCarriageReturns text = [] ↔ text = [] := by
  cases text with
  | nil => simp [withCarriageReturns]
  | cons c rest =>
    by_cases hc : c = '\n'
    · simp [hc, withCarriageReturns_newline]
    · simp [withCarriageReturns_cons hc]

theorem trimLeft_withCarriageReturns (text : Text) :
    trimLeft (withCarriageReturns text) = withCarriageReturns (trimLeft text) := by
  induction text with
  | nil => rfl
  | cons c rest ih =>
    by_cases hc : c = '\n'
    · rw [hc, withCarriageReturns_newline]
      exact ih
    · rw [withCarriageReturns_cons hc, trimLeft_cons, trimLeft_cons, ih]
      split
      · rfl
      · exact (withCarriageReturns_cons hc rest).symm

theorem trimRight_withCarriageReturns (text : Text) :
    trimRight (withCarriageReturns text) = withCarriageReturns (trimRight text) := by
  induction text with
  | nil => rfl
  | cons c rest ih =>
    by_cases hc : c = '\n'
    · have hblank : isBlank '\r' = true ∧ isBlank '\n' = true := by decide
      rw [hc, withCarriageReturns_newline]
      simp only [trimRight_cons, ih, hblank, true_and, withCarriageReturns_eq_nil_iff]
      by_cases hrest : trimRight rest = []
      · rw [if_pos hrest, if_pos rfl, if_pos hrest]
        rfl
      · rw [if_neg hrest, if_neg (List.cons_ne_nil _ _), if_neg hrest, withCarriageReturns_newline]
    · rw [withCarriageReturns_cons hc]
      simp only [trimRight_cons, ih, withCarriageReturns_eq_nil_iff]
      split
      · rfl
      · exact (withCarriageReturns_cons hc _).symm

/-- A carriage return stands at the end of its line, where it is a blank like any other. -/
theorem trimLines_withCarriageReturns (text : Text) :
    trimLines (withCarriageReturns text) = trimLines text := by
  have hlines : (lines (withCarriageReturns text)).map trimRight = (lines text).map trimRight := by
    induction text with
    | nil => rfl
    | cons c rest ih =>
      obtain ⟨first, others, hrest⟩ := List.exists_cons_of_ne_nil (lines_ne_nil rest)
      obtain ⟨first', others', hrest'⟩ :=
        List.exists_cons_of_ne_nil (lines_ne_nil (withCarriageReturns rest))
      by_cases hc : c = '\n'
      · have hreturn : trimRight ['\r'] = [] := by decide
        rw [hc, withCarriageReturns_newline, lines_newline_cons,
          lines_cons (by decide) (lines_newline_cons _), List.map_cons, List.map_cons, ih, hreturn]
        rfl
      · rw [hrest, hrest', List.map_cons, List.map_cons] at ih
        obtain ⟨hfirst, hothers⟩ := List.cons.inj ih
        rw [withCarriageReturns_cons hc, lines_cons hc hrest, lines_cons hc hrest', List.map_cons,
          List.map_cons, hothers, trimRight_cons_congr hfirst c]
  rw [trimLines, hlines, trimLines]

/-- Carriage returns before newlines leave no trace. -/
theorem tidy_withCarriageReturns (text : Text) : tidy (withCarriageReturns text) = tidy text := by
  rw [tidy_eq, trim, trimLeft_withCarriageReturns, trimRight_withCarriageReturns,
    trimLines_withCarriageReturns, ← trim, ← tidy_eq]

end NextRelease.Text
