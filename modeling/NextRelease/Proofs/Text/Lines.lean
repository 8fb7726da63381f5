import NextRelease.Text.Basic
import Mathlib.Data.List.DropRight

/-!
# Lines of a text

Splitting a text into lines and joining lines undo each other, as long as no line holds a newline.
A document is written as its lines with a newline after each, and read as the pieces between
newlines; the lemmas here say when the two lists of lines are the same.
-/

namespace NextRelease.Text

/-! ## Splitting and joining are those of lists -/

theorem split_eq_splitOnP (isSeparator : Char → Bool) (text : Text) :
    split isSeparator text = text.splitOnP isSeparator := by
  induction text with
  | nil => rfl
  | cons c rest ih => rw [split, List.splitOnP_cons_eq_if_modifyHead, ih]

theorem split_eq_splitOn (mark : Char) (text : Text) :
    split (· = mark) text = text.splitOn mark := by
  rw [split_eq_splitOnP, List.splitOn_eq_splitOnP]
  congr 1

/-- A text that does not hold the mark is a single piece. -/
theorem split_eq_singleton {mark : Char} {text : Text} (h : mark ∉ text) :
    split (· = mark) text = [text] := by
  rw [split_eq_splitOn]
  exact List.splitOn_eq_singleton h

/-- A mark ends the first piece. -/
theorem split_append_mark {mark : Char} {front : Text} (h : mark ∉ front) (rest : Text) :
    split (· = mark) (front ++ mark :: rest) = front :: split (· = mark) rest := by
  rw [split_eq_splitOn, split_eq_splitOn]
  exact List.splitOn_append_cons_self_of_not_mem h rest

theorem lines_eq_splitOn (text : Text) : lines text = text.splitOn '\n' := split_eq_splitOn '\n' text

theorem joinLines_eq_intercalate (pieces : List Text) :
    joinLines pieces = ['\n'].intercalate pieces := by
  unfold joinLines
  induction pieces with
  | nil => rfl
  | cons piece rest ih =>
    cases rest with
    | nil => simp [join]
    | cons next rest => rw [join, ih, List.intercalate_cons_cons]; simp

/-! ## Round trips -/

theorem lines_ne_nil (text : Text) : lines text ≠ [] := by
  rw [lines_eq_splitOn]
  exact List.splitOn_ne_nil '\n' text

/-- A text is its lines joined. -/
theorem joinLines_lines (text : Text) : joinLines (lines text) = text := by
  rw [joinLines_eq_intercalate, lines_eq_splitOn]
  exact List.intercalate_splitOn '\n'

/-- Joined lines are read back, as long as none of them holds a newline. -/
theorem lines_joinLines {pieces : List Text} (hne : pieces ≠ [])
    (h : ∀ line ∈ pieces, '\n' ∉ line) : lines (joinLines pieces) = pieces := by
  rw [joinLines_eq_intercalate, lines_eq_splitOn]
  exact List.splitOn_intercalate '\n' h hne

theorem newline_notMem_of_mem_lines {text line : Text} (h : line ∈ lines text) : '\n' ∉ line := by
  induction text generalizing line with
  | nil =>
    have hline : line = [] := by simpa [lines, split] using h
    simp [hline]
  | cons c rest ih =>
    simp only [lines, split, decide_eq_true_eq] at h ih
    split at h
    · rcases List.mem_cons.mp h with rfl | h
      · simp
      · exact ih h
    · next hc =>
      obtain ⟨first, others, hs⟩ := List.exists_cons_of_ne_nil (lines_ne_nil rest)
      simp only [lines] at hs
      rw [hs] at h ih
      rcases List.mem_cons.mp h with rfl | h
      · have hfirst : '\n' ∉ first := ih (List.mem_cons_self)
        simp [hfirst, Ne.symm hc]
      · exact ih (List.mem_cons_of_mem _ h)

/-- Only a text without newlines is its own single line. -/
theorem lines_eq_singleton {text : Text} (h : '\n' ∉ text) : lines text = [text] :=
  split_eq_singleton h

/-- A newline ends the first line. -/
theorem lines_append_newline {line : Text} (h : '\n' ∉ line) (rest : Text) :
    lines (line ++ '\n' :: rest) = line :: lines rest := split_append_mark h rest

/-! ## One character more -/

theorem lines_newline_cons (rest : Text) : lines ('\n' :: rest) = [] :: lines rest := rfl

theorem lines_cons {c : Char} (hc : c ≠ '\n') {rest first : Text} {others : List Text}
    (h : lines rest = first :: others) : lines (c :: rest) = (c :: first) :: others := by
  rw [lines] at h ⊢
  simp [split, hc, h]

theorem joinLines_cons_cons (c : Char) (line : Text) (rest : List Text) :
    joinLines ((c :: line) :: rest) = c :: joinLines (line :: rest) := by
  cases rest with
  | nil => rfl
  | cons next rest => rfl

/-- The first line is what stands before the first newline. -/
theorem firstLine_eq {text first : Text} {rest : List Text} (h : lines text = first :: rest) :
    firstLine text = first := by
  induction text generalizing first rest with
  | nil =>
    have hnil : first = [] := by simpa [lines, split, eq_comm] using (List.cons.inj h).1
    rw [hnil]
    rfl
  | cons c text ih =>
    by_cases hc : c = '\n'
    · rw [hc, lines_newline_cons] at h
      rw [hc, ← (List.cons.inj h).1]
      rfl
    · obtain ⟨line, others, hlines⟩ := List.exists_cons_of_ne_nil (lines_ne_nil text)
      rw [lines_cons hc hlines] at h
      rw [← (List.cons.inj h).1, ← ih hlines, firstLine, firstLine]
      simp [hc]

/-! ## What stands between marks -/

/-- A character that is no separator stands in one of the pieces. -/
theorem exists_mem_split {isSeparator : Char → Bool} {text : Text} {c : Char} (h : c ∈ text)
    (hc : isSeparator c = false) : ∃ piece ∈ split isSeparator text, c ∈ piece := by
  induction text with
  | nil => cases h
  | cons d rest ih =>
    rw [split]
    cases hd : isSeparator d with
    | true =>
      rcases List.mem_cons.mp h with rfl | hrest
      · simp [hc] at hd
      · obtain ⟨piece, hpiece, hmem⟩ := ih hrest
        exact ⟨piece, by simp [hpiece], hmem⟩
    | false =>
      have hne : split isSeparator rest ≠ [] := by
        rw [split_eq_splitOnP]
        exact List.splitOnP_ne_nil _ _
      obtain ⟨first, others, hsplit⟩ := List.exists_cons_of_ne_nil hne
      rw [hsplit] at ih ⊢
      rcases List.mem_cons.mp h with rfl | hrest
      · exact ⟨c :: first, by simp, List.mem_cons_self⟩
      · obtain ⟨piece, hpiece, hmem⟩ := ih hrest
        rcases List.mem_cons.mp hpiece with rfl | hothers
        · exact ⟨d :: piece, by simp, List.mem_cons_of_mem d hmem⟩
        · exact ⟨piece, by simp [hothers], hmem⟩

theorem subset_of_mem_split {isSeparator : Char → Bool} {text piece : Text}
    (h : piece ∈ split isSeparator text) : piece ⊆ text := by
  induction text generalizing piece with
  | nil =>
    obtain rfl : piece = [] := by simpa [split] using h
    exact List.nil_subset _
  | cons c rest ih =>
    rw [split] at h
    split at h
    · rcases List.mem_cons.mp h with rfl | hrest
      · exact List.nil_subset _
      · exact List.subset_cons_of_subset c (ih hrest)
    · cases hsplit : split isSeparator rest with
      | nil => simp [hsplit] at h
      | cons first others =>
        rw [hsplit] at h ih
        rcases List.mem_cons.mp h with rfl | hothers
        · exact List.cons_subset_cons c (ih List.mem_cons_self)
        · exact List.subset_cons_of_subset c (ih (List.mem_cons_of_mem first hothers))

/-- What stands between a start and an ending is found again. -/
theorem between?_append (start inner ending : Text) :
    between? start ending (start ++ inner ++ ending) = some inner := by
  simp [between?]

theorem subset_of_between? {start ending text inner : Text}
    (h : between? start ending text = some inner) : inner ⊆ text := by
  simp only [between?, Option.ite_none_right_eq_some, Option.some.injEq] at h
  rw [← h.2]
  exact List.Subset.trans (List.take_subset _ _) (List.drop_subset _ _)

/-! ## What stands before a mark -/

theorem takeWhile_append_mark {α : Type} [DecidableEq α] {mark : α} {front : List α}
    (h : mark ∉ front) (rest : List α) :
    (front ++ mark :: rest).takeWhile (· ≠ mark) = front := by
  have hfront : ∀ c ∈ front, decide (c ≠ mark) = true := by
    intro c hc
    exact decide_eq_true fun heq => h (heq ▸ hc)
  rw [List.takeWhile_append_of_pos hfront]
  simp

/-- A text that does not hold a mark can be told from what follows the mark after it. -/
theorem append_mark_inj {mark : Char} {front front' rest rest' : Text} (hfront : mark ∉ front)
    (hfront' : mark ∉ front') (h : front ++ mark :: rest = front' ++ mark :: rest') :
    front = front' ∧ rest = rest' := by
  have hequal : front = front' := by
    rw [← takeWhile_append_mark hfront rest, h, takeWhile_append_mark hfront' rest']
  rw [hequal] at h
  exact ⟨hequal, (List.cons.inj (List.append_cancel_left h)).2⟩

/-! ## Documents in which every line ends in a newline -/

theorem joinLines_cons (line : Text) {rest : List Text} (h : rest ≠ []) :
    joinLines (line :: rest) = line ++ '\n' :: joinLines rest := by
  cases rest with
  | nil => exact absurd rfl h
  | cons next rest => simp [joinLines, join]

/-- An empty line at the end is the newline that ends the line before it. -/
theorem joinLines_concat_nil {pieces : List Text} (h : pieces ≠ []) :
    joinLines (pieces ++ [[]]) = joinLines pieces ++ ['\n'] := by
  induction pieces with
  | nil => exact absurd rfl h
  | cons line rest ih =>
    cases rest with
    | nil => simp [joinLines, join]
    | cons next rest =>
      rw [List.cons_append, joinLines_cons line (by simp), ih (by simp),
        joinLines_cons line (by simp)]
      simp

/-- The lines of joined pieces are those of the pieces, one after the other. -/
theorem lines_joinLines_eq_flatMap {pieces : List Text} (hne : pieces ≠ []) :
    lines (joinLines pieces) = pieces.flatMap lines := by
  induction pieces with
  | nil => exact absurd rfl hne
  | cons piece rest ih =>
    cases rest with
    | nil => simp [joinLines, join]
    | cons next rest =>
      rw [joinLines_cons piece (by simp), lines_eq_splitOn, List.splitOn_append_cons_self,
        ← lines_eq_splitOn, ← lines_eq_splitOn, ih (by simp)]
      exact List.flatMap_cons.symm

/-- A newline at the end leaves an empty line after it. -/
theorem lines_concat_newline (text : Text) : lines (text ++ ['\n']) = lines text ++ [[]] := by
  rw [lines_eq_splitOn, List.splitOn_append_cons_self, lines_eq_splitOn, List.splitOn_nil]

/-- The newline at the end closes the last line. -/
theorem closedLines_append_newline (text : Text) : closedLines (text ++ ['\n']) = lines text := by
  simp [closedLines, lines_concat_newline]

/-! ## The newlines at the end -/

theorem dropLastNewlines_eq_rdropWhile (text : Text) :
    dropLastNewlines text = text.rdropWhile (· = '\n') := rfl

/-- Only empty lines at the end are dropped with the newlines there. -/
theorem lines_dropLastNewlines_subset (text : Text) :
    lines (dropLastNewlines text) ⊆ lines text := by
  induction text using List.reverseRecOn with
  | nil => exact List.Subset.refl _
  | append_singleton front c ih =>
    rw [dropLastNewlines_eq_rdropWhile, List.rdropWhile_concat]
    split
    · next hc =>
      obtain rfl : c = '\n' := of_decide_eq_true hc
      rw [lines_concat_newline]
      exact List.Subset.trans ih (List.subset_append_left _ _)
    · exact List.Subset.refl _

theorem joinLines_concat (pieces : List Text) (last : Text) :
    ∃ front, joinLines (pieces ++ [last]) = front ++ last := by
  induction pieces with
  | nil => exact ⟨[], by simp [joinLines, join]⟩
  | cons line rest ih =>
    obtain ⟨front, hfront⟩ := ih
    refine ⟨line ++ '\n' :: front, ?_⟩
    rw [List.cons_append, joinLines_cons line (by simp), hfront]
    simp

/-- Dropping the newlines at the end takes off the empty line after a line that is not empty. -/
theorem dropLastNewlines_joinLines {pieces : List Text} {last : Text} (hne : last ≠ [])
    (h : '\n' ∉ last) :
    dropLastNewlines (joinLines (pieces ++ [last] ++ [[]])) = joinLines (pieces ++ [last]) := by
  -- Only the last character of the last line matters, and it is no newline.
  obtain ⟨start, c, rfl⟩ := (List.eq_nil_or_concat' last).resolve_left hne
  have hc : c ≠ '\n' := by
    intro hc
    simp [hc] at h
  obtain ⟨front, hfront⟩ := joinLines_concat pieces (start ++ [c])
  rw [joinLines_concat_nil (by simp), hfront, ← List.append_assoc, dropLastNewlines_eq_rdropWhile,
    List.rdropWhile_concat_pos _ _ _ (by simp)]
  exact List.rdropWhile_concat_neg _ _ c (by simpa using hc)

end NextRelease.Text
