import Mathlib.Data.List.Dedup
import Mathlib.Data.List.Perm.Subperm
import Mathlib.Order.Bounds.Defs
import NextRelease.Proofs.Notes.Lines
import NextRelease.Report.StepOutput

/-!
# The delimiter of a block

The search for a delimiter refuses the delimiters that are lines of the body, one after the other,
and ends at the first one that is none. It cannot run out: a body does not have more delimiters
among its lines than it has lines. In release notes every line begins in one of four ways or is
empty, and no delimiter begins like that, so their delimiter is always the plain one.
-/

namespace NextRelease.StepOutput

open Text

/-- Delimiters with different numbers of underscores have different lengths. -/
theorem length_delimiterOf (underscores : Nat) :
    (delimiterOf underscores).length = 2 * underscores + 3 := by
  simp [delimiterOf]
  omega

theorem delimiterOf_injective : Function.Injective delimiterOf := by
  intro i j hij
  have hlength := congrArg List.length hij
  rw [length_delimiterOf, length_delimiterOf] at hlength
  omega

theorem newline_notMem_delimiterOf (underscores : Nat) : '\n' ∉ delimiterOf underscores := by
  simp [delimiterOf]

/-- The search refuses delimiters that are taken and stops at one that is free, or out of fuel. -/
theorem delimiterFrom_spec (taken : List Text) (fuel start : Nat) :
    ∃ i ≤ fuel, delimiterFrom taken fuel start = delimiterOf (start + i) ∧
      (∀ j < i, delimiterOf (start + j) ∈ taken) ∧
      (i < fuel → delimiterOf (start + i) ∉ taken) := by
  induction fuel generalizing start with
  | zero => exact ⟨0, Nat.le_refl 0, rfl, by simp, by simp⟩
  | succ fuel ih =>
    by_cases htaken : delimiterOf start ∈ taken
    · obtain ⟨i, hi, hfound, hrefused, hfree⟩ := ih (start + 1)
      refine ⟨i + 1, by omega, ?_, ?_, ?_⟩
      · rw [delimiterFrom, if_pos htaken, hfound, Nat.add_assoc, Nat.add_comm 1 i]
      · intro j hj
        cases j with
        | zero => exact htaken
        | succ j =>
          rw [Nat.add_comm j 1, ← Nat.add_assoc]
          exact hrefused j (by omega)
      · intro hlt
        rw [Nat.add_comm i 1, ← Nat.add_assoc]
        exact hfree (by omega)
    · refine ⟨0, by omega, ?_, by simp, fun _ => by simpa using htaken⟩
      rw [delimiterFrom, if_neg htaken]
      rfl

/-- Delimiters that are taken are as many lines, for no two of them are the same. -/
theorem le_length_of_delimiterOf_mem {taken : List Text} {k : Nat}
    (h : ∀ j < k, delimiterOf j ∈ taken) : k ≤ taken.length := by
  have hsubset : (List.range k).map delimiterOf ⊆ taken := by
    intro delimiter hdelimiter
    obtain ⟨j, hj, rfl⟩ := List.mem_map.mp hdelimiter
    exact h j (List.mem_range.mp hj)
  have hnodup : ((List.range k).map delimiterOf).Nodup :=
    List.nodup_range.map delimiterOf_injective
  have hlength := (List.subperm_of_subset hnodup hsubset).length_le
  rwa [List.length_map, List.length_range] at hlength

/-- As many lines cannot hold one delimiter more. -/
theorem exists_delimiterOf_notMem (taken : List Text) :
    ∃ k ≤ taken.length, delimiterOf k ∉ taken := by
  by_contra hall
  have htaken : ∀ j < taken.length + 1, delimiterOf j ∈ taken := by
    intro j hj
    by_contra hfree
    exact hall ⟨j, Nat.lt_succ_iff.mp hj, hfree⟩
  exact Nat.not_succ_le_self _ (le_length_of_delimiterOf_mem htaken)

/-- The delimiter of a body is the first one that is no line of it. -/
theorem delimiter_spec (body : Text) :
    ∃ k, delimiter body = delimiterOf k ∧ delimiterOf k ∉ lines body ∧
      ∀ j < k, delimiterOf j ∈ lines body := by
  obtain ⟨k, hk, hfound, hrefused, hfree⟩ :=
    delimiterFrom_spec (lines body) (lines body).length 0
  simp only [Nat.zero_add] at hfound hrefused hfree
  refine ⟨k, hfound, ?_, hrefused⟩
  obtain ⟨i, hi, hnotMem⟩ := exists_delimiterOf_notMem (lines body)
  -- No delimiter before `k` is free, so the free one is not before `k`.
  have hki : k ≤ i := by
    by_contra hlt
    exact hnotMem (hrefused i (by omega))
  rcases Nat.lt_or_ge k (lines body).length with hlt | hge
  · exact hfree hlt
  · rwa [show k = i by omega]

theorem delimiter_notMem_lines (body : Text) : delimiter body ∉ lines body := by
  obtain ⟨k, hdelimiter, hfree, _⟩ := delimiter_spec body
  rwa [hdelimiter]

theorem newline_notMem_delimiter (body : Text) : '\n' ∉ delimiter body := by
  obtain ⟨k, hdelimiter, _, _⟩ := delimiter_spec body
  rw [hdelimiter]
  exact newline_notMem_delimiterOf k

theorem delimiter_eq_plain {body : Text} (h : delimiterOf 0 ∉ lines body) :
    delimiter body = delimiterOf 0 := by
  obtain ⟨k, hdelimiter, _, hrefused⟩ := delimiter_spec body
  cases k with
  | zero => exact hdelimiter
  | succ k => exact absurd (hrefused 0 (Nat.succ_pos k)) h

/-! ## The loop of the search -/

/-- What is tried after a delimiter that is taken. -/
def widen (delimiter : Text) : Text := '_' :: delimiter ++ ['_']

/--
The run of the loop that widens a delimiter as long as it is taken, up to the one that it ends with.
A loop that goes on for ever has no run.
-/
inductive SearchEnds (taken : List Text) : Text → Text → Prop
  | free {delimiter : Text} (hfree : delimiter ∉ taken) : SearchEnds taken delimiter delimiter
  | refused {delimiter found : Text} (htaken : delimiter ∈ taken)
    (hrest : SearchEnds taken (widen delimiter) found) : SearchEnds taken delimiter found

theorem widen_delimiterOf (underscores : Nat) :
    widen (delimiterOf underscores) = delimiterOf (underscores + 1) := by
  have hend : List.replicate underscores '_' ++ ['_'] = List.replicate (underscores + 1) '_' :=
    List.replicate_succ'.symm
  unfold widen delimiterOf
  rw [List.cons_append, List.append_assoc, hend, List.replicate_succ]
  rfl

/-- The loop ends in one way only. -/
theorem SearchEnds.unique {taken : List Text} {start found other : Text}
    (h : SearchEnds taken start found) (hother : SearchEnds taken start other) : found = other := by
  induction h with
  | free hfree =>
    cases hother with
    | free _ => rfl
    | refused htaken _ => exact absurd htaken hfree
  | refused htaken _ ih =>
    cases hother with
    | free hfree => exact absurd htaken hfree
    | refused _ hrest => exact ih hrest

/-- The loop goes through the delimiters that are taken and ends at the first one that is free. -/
theorem searchEnds_delimiterOf {taken : List Text} {start steps : Nat}
    (hrefused : ∀ j < steps, delimiterOf (start + j) ∈ taken)
    (hfree : delimiterOf (start + steps) ∉ taken) :
    SearchEnds taken (delimiterOf start) (delimiterOf (start + steps)) := by
  induction steps generalizing start with
  | zero => exact .free hfree
  | succ steps ih =>
    have hnext (j : Nat) : start + (j + 1) = start + 1 + j := by omega
    have hrest :
        SearchEnds taken (delimiterOf (start + 1)) (delimiterOf (start + (steps + 1))) := by
      rw [hnext steps] at hfree ⊢
      refine ih (fun j hj => ?_) hfree
      rw [← hnext j]
      exact hrefused (j + 1) (Nat.succ_lt_succ hj)
    refine .refused (hrefused 0 (Nat.succ_pos steps)) ?_
    rwa [Nat.add_zero, widen_delimiterOf]

theorem searchEnds_iff {body found : Text} :
    SearchEnds (lines body) (delimiterOf 0) found ↔ found = delimiter body := by
  obtain ⟨k, hdelimiter, hfree, hrefused⟩ := delimiter_spec body
  rw [← Nat.zero_add k] at hdelimiter hfree
  have hends : SearchEnds (lines body) (delimiterOf 0) (delimiter body) := by
    rw [hdelimiter]
    exact searchEnds_delimiterOf (fun j hj => by simpa using hrefused j hj) hfree
  constructor
  · exact fun h => h.unique hends
  · rintro rfl
    exact hends

/-! ## The delimiter of release notes -/

/--
A line that is empty or begins with the first character of a title, an item, a line that goes on
with one, or the notice that nothing has changed.
-/
def IsNotesLine (line : Text) : Prop := ∀ c ∈ line.head?, c ∈ ['#', '-', ' ', 'N']

theorem isNotesLine_nil : IsNotesLine [] := nofun

theorem isNotesLine_cons {c : Char} (h : c ∈ ['#', '-', ' ', 'N']) (rest : Text) :
    IsNotesLine (c :: rest) := by
  intro d hd
  rwa [← Option.mem_some_iff.mp hd]

theorem isNotesLine_of_mem_item {message line : Text} (h : line ∈ Notes.item message) :
    IsNotesLine line := by
  obtain ⟨first, rest, hlines⟩ := List.exists_cons_of_ne_nil (lines_ne_nil (trim message))
  rw [Notes.item_eq hlines] at h
  rcases List.mem_cons.mp h with rfl | hrest
  · exact isNotesLine_cons (by decide) _
  · obtain ⟨line, _, rfl⟩ := List.mem_map.mp hrest
    unfold Notes.continuation
    split
    · exact isNotesLine_nil
    · exact isNotesLine_cons (by decide) _

theorem isNotesLine_of_mem_sectionLines {emoji : Bool} {group : Category × List Commit}
    {line : Text} (h : line ∈ Notes.sectionLines emoji group) : IsNotesLine line := by
  simp only [Notes.sectionLines, List.cons_append, List.mem_cons, List.mem_append,
    List.mem_flatMap, List.not_mem_nil, or_false] at h
  rcases h with rfl | rfl | ⟨commit, _, hitem⟩ | rfl
  · exact isNotesLine_cons (by decide) _
  · exact isNotesLine_nil
  · exact isNotesLine_of_mem_item hitem
  · exact isNotesLine_nil

/-- Under a title of one line, no line of release notes begins in another way. -/
theorem isNotesLine_of_mem_lines_render {version title : Text}
    (h : '\n' ∉ Notes.titleLine title version) {commits : List Commit} {emoji : Bool} {line : Text}
    (hline : line ∈ lines (Notes.render version commits title emoji)) : IsNotesLine line := by
  rw [Notes.lines_render h] at hline
  rcases List.mem_cons.mp hline with rfl | hbody
  · exact isNotesLine_cons (by decide) _
  unfold Notes.bodyLines at hbody
  split at hbody
  · simp only [List.mem_cons, List.not_mem_nil, or_false] at hbody
    rcases hbody with rfl | rfl | rfl
    · exact isNotesLine_nil
    · exact isNotesLine_cons (by decide) _
    · exact isNotesLine_nil
  · rcases List.mem_cons.mp hbody with rfl | hsections
    · exact isNotesLine_nil
    · obtain ⟨group, _, hgroup⟩ := List.mem_flatMap.mp hsections
      exact isNotesLine_of_mem_sectionLines hgroup

/-- A delimiter begins with an underscore or with the first letter of the plain one. -/
theorem not_isNotesLine_delimiterOf (underscores : Nat) :
    ¬IsNotesLine (delimiterOf underscores) := by
  intro h
  cases underscores with
  | zero => exact absurd (h 'E' rfl) (by decide)
  | succ underscores => exact absurd (h '_' rfl) (by decide)

/--
The loop that looks for a delimiter ends for every body, with what `delimiter` gives: the plain
delimiter between as many underscores as it takes, and no more, for it not to be a line of the body.
There are at most as many at each end as the body has different lines. Release notes under a title
of one line take none, whatever the commits say, with or without the newline at their end.
-/
theorem delimiter_minimal :
    (∀ body,
      (∀ found, SearchEnds (lines body) "EOF".toList found ↔ found = delimiter body) ∧
      ∃ k, delimiter body = List.replicate k '_' ++ "EOF".toList ++ List.replicate k '_' ∧
        IsLeast {n | delimiterOf n ∉ lines body} k ∧ k ≤ (lines body).dedup.length) ∧
    ∀ version title, '\n' ∉ replace placeholder version title → ∀ commits emoji,
      let notes := Notes.render version commits title emoji
      delimiter notes = "EOF".toList ∧ delimiter (dropLastNewlines notes) = "EOF".toList := by
  refine ⟨fun body => ⟨fun found => searchEnds_iff, ?_⟩, ?_⟩
  · obtain ⟨k, hdelimiter, hfree, hrefused⟩ := delimiter_spec body
    refine ⟨k, hdelimiter, ⟨hfree, fun n hn => ?_⟩, ?_⟩
    · exact Nat.le_of_not_lt fun hlt => hn (hrefused n hlt)
    · exact le_length_of_delimiterOf_mem fun j hj => List.mem_dedup.mpr (hrefused j hj)
  · intro version title h commits emoji notes
    have htitle : '\n' ∉ Notes.titleLine title version := by simp [Notes.titleLine, h]
    have hplain : delimiterOf 0 ∉ lines notes := fun hmem =>
      not_isNotesLine_delimiterOf 0 (isNotesLine_of_mem_lines_render htitle hmem)
    exact ⟨delimiter_eq_plain hplain,
      delimiter_eq_plain fun hmem => hplain (lines_dropLastNewlines_subset notes hmem)⟩

/-- Commits whose messages consist of delimiters do not change the delimiter of their notes. -/
theorem delimiter_forged_lines :
    '\n' ∉ replace placeholder "1.0.1".toList Notes.defaultTitle ∧
      delimiter (dropLastNewlines (Notes.render "1.0.1".toList
        (classifyAll ["EOF".toList, "fix: a\nEOF\n\n_EOF_\n".toList]))) = "EOF".toList := by
  have htitle : '\n' ∉ replace placeholder "1.0.1".toList Notes.defaultTitle := by decide
  exact ⟨htitle, (delimiter_minimal.2 _ _ htitle _ false).2⟩

end NextRelease.StepOutput
