import NextRelease.Proofs.Resolution.Failures
import NextRelease.Proofs.Resolution.FinalVersion
import NextRelease.Report.TableReader

/-!
# The table of a summary is read back

Of the five facts of a summary only the last tag, the revision and the identifier of a pull request
come from outside as they are. A tag that is read as a version may stand between blanks, and any
text may follow its version, so it may hold what breaks a row: a newline, a bar or a backquote. If
revision and identifier hold none of them, the table is well formed and read back exactly if the tag
holds none either.

That every tag that is read as a version gives a table is false.
-/

namespace NextRelease.Report

open Text

/-! ## Cells -/

/-- The characters that break a row when they stand in one of its cells. -/
def cellBreakers : List Char := ['\n', '|', '\x60']

/-- The text can stand in a cell of a row. -/
def FitsCell (text : Text) : Prop := ∀ c ∈ text, c ∉ cellBreakers

instance (text : Text) : Decidable (FitsCell text) := List.decidableBAll _ text

theorem fitsCell_append_iff {front rest : Text} :
    FitsCell (front ++ rest) ↔ FitsCell front ∧ FitsCell rest :=
  List.forall_mem_append

theorem FitsCell.of_subset {text found : Text} (h : FitsCell text) (hsubset : found ⊆ text) :
    FitsCell found := fun c hc => h c (hsubset hc)

theorem FitsCell.notMem {text : Text} (h : FitsCell text) {c : Char} (hc : c ∈ cellBreakers) :
    c ∉ text := fun hmem => h c hmem hc

theorem mem_cellBreakers_iff {c : Char} : c ∈ cellBreakers ↔ c = '\n' ∨ isRowMark c = true := by
  simp [cellBreakers, isRowMark]

theorem fitsCell_iff {text : Text} :
    FitsCell text ↔ '\n' ∉ text ∧ text.any isRowMark = false := by
  rw [List.any_eq_false]
  constructor
  · intro h
    exact ⟨h.notMem (by decide), fun c hc hmark => h c hc (mem_cellBreakers_iff.mpr (.inr hmark))⟩
  · rintro ⟨hnewline, hmarks⟩ c hc hbreaker
    rcases mem_cellBreakers_iff.mp hbreaker with rfl | hmark
    · exact hnewline hc
    · exact hmarks c hc hmark

/-- None of these characters is written in a number or a version. -/
theorem notDigit_of_mem_cellBreakers {c : Char} (h : c ∈ cellBreakers) :
    c.isDigit = false ∧ c ≠ '.' := by
  have hall : cellBreakers.all (fun c => !c.isDigit && c != '.') = true := by decide
  simpa using List.all_eq_true.mp hall c h

theorem fitsCell_decimal (n : Nat) : FitsCell (decimal n) := fun _ hc hbreaker =>
  notMem_decimal (notDigit_of_mem_cellBreakers hbreaker).1 hc

theorem fitsCell_version (v : Version) : FitsCell v.text := by
  intro c hc hbreaker
  obtain ⟨hdigit, hdot⟩ := notDigit_of_mem_cellBreakers hbreaker
  rcases Version.mem_text hc with h | h
  · simp [hdigit] at h
  · exact hdot h

/-! ## Rows -/

/-- Name and value can stand in the cells of a row. -/
def FitsRow (fact : Text × Text) : Prop := FitsCell fact.1 ∧ FitsCell fact.2

theorem newline_notMem_row {fact : Text × Text} (h : FitsRow fact) : '\n' ∉ row fact := by
  simp [row, h.1.notMem (c := '\n') (by decide), h.2.notMem (c := '\n') (by decide)]

/-- Between the bars of a row stand its two cells. -/
theorem split_row {fact : Text × Text} (h : FitsRow fact) :
    split (· = '|') (row fact) =
      [[], [' '] ++ fact.1 ++ [' '], [' ', '\x60'] ++ fact.2 ++ ['\x60', ' '], []] := by
  have hname : '|' ∉ [' '] ++ fact.1 ++ [' '] := by
    simp [h.1.notMem (c := '|') (by decide)]
  have hvalue : '|' ∉ [' ', '\x60'] ++ fact.2 ++ ['\x60', ' '] := by
    simp [h.2.notMem (c := '|') (by decide)]
  have hrow : row fact = [] ++ '|' :: ([' '] ++ fact.1 ++ [' '] ++
      '|' :: ([' ', '\x60'] ++ fact.2 ++ ['\x60', ' '] ++ '|' :: [])) := by
    simp [row]
  rw [hrow, split_append_mark (by simp), split_append_mark hname, split_append_mark hvalue]
  rfl

theorem readRow?_row {fact : Text × Text} (h : FitsRow fact) : readRow? (row fact) = some fact := by
  have hname := (fitsCell_iff.mp h.1).2
  have hvalue := (fitsCell_iff.mp h.2).2
  simp only [readRow?, split_row h, between?_append, Option.bind_eq_bind, Option.bind_some, hname,
    hvalue]
  rfl

/-- Each of the rows is a line. -/
theorem flatMap_lines_rows {facts : List (Text × Text)} (hfits : ∀ fact ∈ facts, FitsRow fact) :
    (facts.map row).flatMap lines = facts.map row := by
  induction facts with
  | nil => rfl
  | cons fact facts ih =>
    obtain ⟨hfact, hfacts⟩ := List.forall_mem_cons.mp hfits
    rw [List.map_cons, List.flatMap_cons, lines_eq_singleton (newline_notMem_row hfact), ih hfacts]
    rfl

/-- What is read of a line can stand in a row. -/
theorem fitsRow_of_readRow? {line : Text} {fact : Text × Text} (hline : '\n' ∉ line)
    (h : readRow? line = some fact) : FitsRow fact := by
  unfold readRow? at h
  split at h
  · next name value hsplit =>
    simp only [Option.bind_eq_bind, Option.bind_eq_some_iff, Option.ite_none_left_eq_some,
      Option.some.injEq, Bool.or_eq_true, not_or, Bool.not_eq_true] at h
    obtain ⟨name', hname, value', hvalue, ⟨hnameMarks, hvalueMarks⟩, rfl⟩ := h
    have hpieces : name ⊆ line ∧ value ⊆ line :=
      ⟨subset_of_mem_split (by rw [hsplit]; simp), subset_of_mem_split (by rw [hsplit]; simp)⟩
    refine ⟨fitsCell_iff.mpr ⟨fun hnewline => hline ?_, hnameMarks⟩,
      fitsCell_iff.mpr ⟨fun hnewline => hline ?_, hvalueMarks⟩⟩
    · exact hpieces.1 (subset_of_between? hname hnewline)
    · exact hpieces.2 (subset_of_between? hvalue hnewline)
  · cases h

theorem mapM_eq_some_iff {α β : Type} {f : α → Option β} {inputs : List α} {outputs : List β} :
    inputs.mapM f = some outputs ↔ inputs.map f = outputs.map some := by
  induction inputs generalizing outputs with
  | nil => cases outputs <;> simp
  | cons input inputs ih =>
    cases outputs with
    | nil => simp [Option.bind_eq_some_iff]
    | cons output outputs => simp [Option.bind_eq_some_iff, ih]

/-- Every fact that is read of a table can stand in a row. -/
theorem fitsRow_of_readTable? {document : Text} {facts : List (Text × Text)}
    (h : readTable? document = some facts) : ∀ fact ∈ facts, FitsRow fact := by
  intro fact hfact
  have hread : some fact ∈ (rowLines document).map readRow? := by
    rw [mapM_eq_some_iff.mp h]
    exact List.mem_map_of_mem hfact
  obtain ⟨line, hline, hrow⟩ := List.mem_map.mp hread
  have hmem : line ∈ lines document :=
    ((List.takeWhile_sublist _).trans
      ((List.drop_sublist _ _).trans (List.dropWhile_sublist _))).subset hline
  exact fitsRow_of_readRow? (newline_notMem_of_mem_lines hmem) hrow

/-! ## The facts of a summary -/

/-- The base version, after the previous one if it is another. -/
def baseForm (resolution : Resolution) : Text :=
  if resolution.baseVersion = resolution.previousVersion then resolution.baseVersion.text
  else resolution.previousVersion.text ++ " → ".toList ++ resolution.baseVersion.text

/-- The five facts of a resolution, in full. -/
def allFacts (resolution : Resolution) : List (Text × Text) := [
  ("Last tag".toList, if resolution.lastTag = [] then "(none)".toList else resolution.lastTag),
  ("Commits since".toList, decimal resolution.commitCount),
  ("Base version".toList, baseForm resolution),
  ("Final version".toList, resolution.finalVersion),
  ("Scenario".toList, resolution.scenario.name)]

section

variable {resolution : Resolution} (hprevious : resolution.previousVersion.IsWritable)
  (hbase : resolution.baseVersion.IsWritable)
include hprevious hbase

theorem baseText_eq : baseText resolution = .ok (baseForm resolution) := by
  rw [baseText, baseForm, Version.write_eq_ok_iff.mpr ⟨hprevious, rfl⟩,
    Version.write_eq_ok_iff.mpr ⟨hbase, rfl⟩]
  split
  · rfl
  · rfl

/-- The facts can be written unless there are too many commits. -/
theorem facts_eq_ok_iff {found : List (Text × Text)} :
    facts resolution = .ok found ↔
      resolution.commitCount < 10 ^ numeralLimit ∧ found = allFacts resolution := by
  simp only [facts, baseText_eq hprevious hbase, bind_eq_ok_iff, pure_eq_ok_iff,
    writeNumber_eq_ok_iff, Except.ok.injEq]
  constructor
  · rintro ⟨_, rfl, _, ⟨hcount, rfl⟩, rfl⟩
    exact ⟨hcount, rfl⟩
  · rintro ⟨hcount, rfl⟩
    exact ⟨_, rfl, _, ⟨hcount, rfl⟩, rfl⟩

end

/-- The suffix of a build can stand in a cell if revision and identifier can. -/
theorem fitsCell_suffixText {context : BuildContext} (hrevision : FitsCell context.shortRevision)
    (hid : FitsCell (context.pullRequestId.getD [])) : FitsCell context.suffixText := by
  have hstage : FitsCell context.stage := by
    unfold BuildContext.stage
    cases context.scenario with
    | release =>
      show FitsCell []
      decide
    | pullRequest =>
      exact fitsCell_append_iff.mpr ⟨by decide, hid.of_subset (trim_subset _)⟩
    | otherBranch =>
      show FitsCell "br".toList
      decide
    | mainBuild => exact fitsCell_append_iff.mpr ⟨by decide, fitsCell_decimal _⟩
  by_cases hrelease : context.scenario = .release
  · rw [BuildContext.suffixText_eq_nil_iff.mpr hrelease]
    decide
  · rw [BuildContext.suffixText_of_ne_release hrelease]
    exact fitsCell_append_iff.mpr ⟨List.forall_mem_cons.mpr ⟨by decide, hstage⟩,
      List.forall_mem_cons.mpr ⟨by decide, hrevision⟩⟩

section

variable {request : Request} {resolution : Resolution} (h : resolve request = .ok resolution)
  (hrevision : FitsCell request.context.shortRevision)
  (hid : FitsCell (request.context.pullRequestId.getD []))
include h hrevision hid

theorem fitsCell_finalVersion : FitsCell resolution.finalVersion := by
  by_cases hcommit : ∃ message ∈ request.messages, allBlank message = false
  · rw [(resolve_finalVersion h hcommit).2]
    exact fitsCell_append_iff.mpr ⟨fitsCell_version _, fitsCell_suffixText hrevision hid⟩
  · rw [resolve_finalVersion_of_blank h (by simpa using hcommit)]
    exact fitsCell_version _

/-- All facts but the last tag can stand in a row. -/
theorem fitsRow_allFacts (htag : FitsCell resolution.lastTag) :
    ∀ fact ∈ allFacts resolution, FitsRow fact := by
  have hlast : FitsCell
      (if resolution.lastTag = [] then "(none)".toList else resolution.lastTag) := by
    split
    · decide
    · exact htag
  have hbase : FitsCell (baseForm resolution) := by
    unfold baseForm
    split
    · exact fitsCell_version _
    · exact fitsCell_append_iff.mpr
        ⟨fitsCell_append_iff.mpr ⟨fitsCell_version _, by decide⟩, fitsCell_version _⟩
  have hscenario : FitsCell resolution.scenario.name := by
    cases resolution.scenario with
    | pullRequest => decide
    | otherBranch => decide
    | release => decide
    | mainBuild => decide
  simp only [allFacts, FitsRow, List.forall_mem_cons, List.not_mem_nil, false_imp_iff, implies_true,
    and_true]
  exact ⟨⟨by decide, hlast⟩, ⟨by decide, fitsCell_decimal _⟩, ⟨by decide, hbase⟩,
    ⟨by decide, fitsCell_finalVersion h hrevision hid⟩, ⟨by decide, hscenario⟩⟩

end

/-! ## The lines of a summary -/

/-- The lines above the rows: the title, an empty line, the header and the rule. -/
def headLines : List Text :=
  ["## ".toList ++ title, [], "| Field | Value |".toList, tableRule]

section

variable {resolution : Resolution} (hprevious : resolution.previousVersion.IsWritable)
  (hbase : resolution.baseVersion.IsWritable)
include hprevious hbase

/-- The summary in full: the table, an empty line, the reasons and the advisories. -/
theorem markdown_eq_ok_iff {document : Text} :
    markdown resolution = .ok document ↔
      resolution.commitCount < 10 ^ numeralLimit ∧
        document = joinLines (headLines ++ (allFacts resolution).map row ++
          [] :: reasonLines resolution ++ resolution.advisories.map ("⚠️ ".toList ++ ·)) ++
            ['\n'] := by
  simp only [markdown, bind_eq_ok_iff, pure_eq_ok_iff, facts_eq_ok_iff hprevious hbase]
  constructor
  · rintro ⟨_, ⟨hcount, rfl⟩, rfl⟩
    exact ⟨hcount, rfl⟩
  · rintro ⟨hcount, rfl⟩
    exact ⟨_, ⟨hcount, rfl⟩, rfl⟩

theorem exists_markdown_iff :
    (∃ document, markdown resolution = .ok document) ↔
      resolution.commitCount < 10 ^ numeralLimit := by
  constructor
  · rintro ⟨_, hdocument⟩
    exact ((markdown_eq_ok_iff hprevious hbase).mp hdocument).1
  · intro hcount
    exact ⟨_, (markdown_eq_ok_iff hprevious hbase).mpr ⟨hcount, rfl⟩⟩

/-- Whatever the facts hold, their rows stand under the rule, with an empty line after them. -/
theorem lines_markdown {document : Text} (h : markdown resolution = .ok document) :
    ∃ rest, lines document =
      headLines ++ ((allFacts resolution).map row).flatMap lines ++ [] :: rest := by
  obtain ⟨_, rfl⟩ := (markdown_eq_ok_iff hprevious hbase).mp h
  have hhead : headLines.flatMap lines = headLines := by decide
  refine ⟨(reasonLines resolution ++
    resolution.advisories.map ("⚠️ ".toList ++ ·)).flatMap lines ++ [[]], ?_⟩
  rw [lines_concat_newline, lines_joinLines_eq_flatMap (by simp)]
  simp only [List.flatMap_append, List.flatMap_cons, hhead, List.append_assoc, List.cons_append]
  rfl

end

/-- The rows of a document are what stands between the rule and the next empty line. -/
theorem rowLines_eq {document : Text} {rows rest : List Text} (hrows : [] ∉ rows)
    (h : lines document = headLines ++ rows ++ [] :: rest) : rowLines document = rows := by
  have hhead : headLines.dropWhile (· ≠ tableRule) = [tableRule] := by decide
  have hdrop : ((lines document).dropWhile (· ≠ tableRule)).drop 1 = rows ++ [] :: rest := by
    rw [h, List.append_assoc, List.dropWhile_append, hhead]
    rfl
  rw [rowLines, hdrop]
  exact takeWhile_append_mark hrows rest

/-! ## The table -/

/-- The document begins with a table of the facts, which is read back. -/
structure HasTable (document : Text) (facts : List (Text × Text)) : Prop where
  /-- Header and rule are followed by a row for each fact and an empty line. -/
  lines_eq : ∃ rest, lines document = headLines ++ facts.map row ++ [] :: rest
  /-- No cell holds a newline, a bar or a backquote. -/
  fitsRow : ∀ fact ∈ facts, FitsRow fact
  readTable?_eq : readTable? document = some facts

theorem hasTable_of_fitsRow {document : Text} {facts : List (Text × Text)}
    (hfits : ∀ fact ∈ facts, FitsRow fact)
    (h : ∃ rest, lines document = headLines ++ (facts.map row).flatMap lines ++ [] :: rest) :
    HasTable document facts := by
  obtain ⟨rest, hlines⟩ := h
  rw [flatMap_lines_rows hfits] at hlines
  have hnonempty : [] ∉ facts.map row := by
    simp [row]
  refine ⟨⟨rest, hlines⟩, hfits, ?_⟩
  rw [readTable?, rowLines_eq hnonempty hlines, mapM_eq_some_iff, List.map_map]
  exact List.map_congr_left fun fact hfact => readRow?_row (hfits fact hfact)

/-- A table that gives the last tag back holds it in a cell. -/
theorem fitsCell_lastTag_of_readTable? {document : Text} {resolution : Resolution}
    (h : readTable? document = some (allFacts resolution)) : FitsCell resolution.lastTag := by
  have hvalue := (fitsRow_of_readTable? h _ (List.mem_cons_self ..)).2
  by_cases htag : resolution.lastTag = []
  · rw [htag]
    decide
  · simpa only [htag, if_false] using hvalue

/--
The summary of an answer whose revision and identifier of a pull request hold no newline, no bar and
no backquote is written unless there are too many commits. It then has a table of the five facts
that is read back if the last tag holds none of these characters either, and otherwise other facts
are read of it, or none.
-/
theorem markdown_hasTable_iff {request : Request} {resolution : Resolution}
    (h : resolve request = .ok resolution)
    (hrevision : FitsCell request.context.shortRevision)
    (hid : FitsCell (request.context.pullRequestId.getD [])) :
    ((∃ document, markdown resolution = .ok document) ↔
      resolution.commitCount < 10 ^ numeralLimit) ∧
    ∀ document, markdown resolution = .ok document →
      (FitsCell (request.lastTag.getD []) → HasTable document (allFacts resolution)) ∧
      (readTable? document = some (allFacts resolution) → FitsCell (request.lastTag.getD [])) := by
  obtain ⟨hprevious, hbase⟩ := resolve_isWritable h
  rw [← resolve_lastTag h]
  refine ⟨exists_markdown_iff hprevious hbase, fun document hdocument => ⟨fun htag => ?_,
    fitsCell_lastTag_of_readTable?⟩⟩
  exact hasTable_of_fitsRow (fitsRow_allFacts h hrevision hid htag)
    (lines_markdown hprevious hbase hdocument)

theorem pullRequestAfter_hasTable :
    (∃ resolution document, resolve (pullRequestAfter "v1.4.2 (rc)" "7" "ab+c") = .ok resolution ∧
      markdown resolution = .ok document ∧ HasTable document (allFacts resolution)) ∧
    ∃ resolution document, resolve (pullRequestAfter "v1.4.2|a" "7" "ab+c") = .ok resolution ∧
      markdown resolution = .ok document ∧ readTable? document ≠ some (allFacts resolution) := by
  constructor
  · obtain ⟨resolution, hresolve, hcount⟩ : ∃ resolution,
        resolve (pullRequestAfter "v1.4.2 (rc)" "7" "ab+c") = .ok resolution ∧
          resolution.commitCount = 1 := ⟨_, rfl, rfl⟩
    obtain ⟨hwritten, htable⟩ := markdown_hasTable_iff hresolve (by decide) (by decide)
    obtain ⟨document, hdocument⟩ := hwritten.mpr (by
      rw [hcount]
      exact Nat.one_lt_pow (by decide) (by decide))
    exact ⟨resolution, document, hresolve, hdocument, (htable document hdocument).1 (by decide)⟩
  · obtain ⟨resolution, document, hresolve, hdocument⟩ : ∃ resolution document,
        resolve (pullRequestAfter "v1.4.2|a" "7" "ab+c") = .ok resolution ∧
          markdown resolution = .ok document := ⟨_, _, rfl, rfl⟩
    obtain ⟨_, htable⟩ := markdown_hasTable_iff hresolve (by decide) (by decide)
    refine ⟨resolution, document, hresolve, hdocument, fun hread => ?_⟩
    exact absurd ((htable document hdocument).2 hread) (by decide)

/-- A newline after a tag that is read as a version breaks the row of the tag in two. -/
theorem newlineTag_breaks_table :
    readTag ['v'] (some "v1.4.2\n".toList) = .ok ⟨⟨1, 4, 2⟩, none⟩ ∧
    FitsCell (pullRequestAfter "v1.4.2\n" "7" "ab+c").context.shortRevision ∧
    FitsCell ((pullRequestAfter "v1.4.2\n" "7" "ab+c").context.pullRequestId.getD []) ∧
    ∃ resolution document, resolve (pullRequestAfter "v1.4.2\n" "7" "ab+c") = .ok resolution ∧
      markdown resolution = .ok document ∧ (rowLines document).length = 6 ∧
      readTable? document = none :=
  ⟨rfl, by decide, by decide, _, _, rfl, rfl, rfl, rfl⟩

end NextRelease.Report
