import NextRelease.Proofs.Notes.Lines
import NextRelease.Proofs.Report.Delimiter
import NextRelease.Proofs.Resolution.Answer
import NextRelease.Report.OutputReader

/-!
# Step outputs are read back

The block of the notes ends at the right line, whatever lines the notes hold, since none of them is
the delimiter. The version stands on a line of its own, and so the outputs are read back exactly if
it holds no newline. A resolution puts a newline there only when the build context brings one.
-/

namespace NextRelease.StepOutput

open Text

/-! ## Reading -/

theorem opening?_version (value : Text) : opening? ("version=".toList ++ value) = none := rfl

theorem opening?_commitCount (value : Text) :
    opening? ("commit_count=".toList ++ value) = none := rfl

theorem opening?_notes (delimiter : Text) :
    opening? ("notes<<".toList ++ delimiter) = some ("notes".toList, delimiter) := rfl

theorem assignment?_version (value : Text) :
    assignment? ("version=".toList ++ value) = some ⟨"version".toList, value⟩ := rfl

theorem assignment?_commitCount (value : Text) :
    assignment? ("commit_count=".toList ++ value) = some ⟨"commit_count".toList, value⟩ := rfl

theorem readLines_assignment {line : Text} {output : Output} (hopening : opening? line = none)
    (hassignment : assignment? line = some output) (rest : List Text) :
    readLines none (line :: rest) = (readLines none rest).map (output :: ·) := by
  simp only [readLines, hopening, hassignment]
  cases readLines none rest with
  | none => rfl
  | some outputs => rfl

/-- A block reaches up to the next line that is its delimiter. -/
theorem readLines_block {delimiter : Text} {body : List Text} (h : delimiter ∉ body) (name : Text)
    (before rest : List Text) :
    readLines (some ⟨name, delimiter, before⟩) (body ++ delimiter :: rest) =
      (readLines none rest).map (⟨name, joinLines (before ++ body)⟩ :: ·) := by
  induction body generalizing before with
  | nil => simp [readLines]
  | cons line body ih =>
    obtain ⟨hline, hbody⟩ := not_or.mp (mt List.mem_cons.mpr h)
    rw [List.cons_append, readLines, if_neg (Ne.symm hline), ih hbody]
    simp

/-! ## The lines of the outputs -/

/-- The values that a resolution hands on, with their names. -/
def outputs (resolution : Resolution) : List Output :=
  [⟨"version".toList, resolution.finalVersion⟩,
    ⟨"commit_count".toList, decimal resolution.commitCount⟩,
    ⟨"notes".toList, dropLastNewlines resolution.releaseNotes⟩]

/-- The lines after the ones of the version: the number of commits and the block of the notes. -/
def laterLines (resolution : Resolution) : List Text :=
  let notes := dropLastNewlines resolution.releaseNotes
  ("commit_count=".toList ++ decimal resolution.commitCount) ::
    ("notes<<".toList ++ delimiter notes) :: (lines notes ++ [delimiter notes])

theorem render_eq_ok {resolution : Resolution} (h : resolution.commitCount < 10 ^ numeralLimit) :
    ∃ text, render resolution = .ok text ∧
      closedLines text =
        lines ("version=".toList ++ resolution.finalVersion) ++ laterLines resolution := by
  refine ⟨_, by rw [render, writeNumber_eq_ok h]; rfl, ?_⟩
  have hcount : '\n' ∉ "commit_count=".toList ++ decimal resolution.commitCount := by
    simp [notMem_decimal]
  have hdelimiter := newline_notMem_delimiter (dropLastNewlines resolution.releaseNotes)
  have hopening :
      '\n' ∉ "notes<<".toList ++ delimiter (dropLastNewlines resolution.releaseNotes) := by
    simp [hdelimiter]
  rw [closedLines_append_newline, lines_joinLines_eq_flatMap (by simp)]
  simp only [List.flatMap_cons, List.flatMap_nil, lines_eq_singleton hcount,
    lines_eq_singleton hopening, lines_eq_singleton hdelimiter, laterLines]
  simp

/-- What stands after the version is read back whatever lines the notes hold. -/
theorem readLines_laterLines (resolution : Resolution) :
    readLines none (laterLines resolution) = some ((outputs resolution).drop 1) := by
  have hfree := delimiter_notMem_lines (dropLastNewlines resolution.releaseNotes)
  rw [laterLines, readLines_assignment (opening?_commitCount _) (assignment?_commitCount _)]
  simp only [readLines, opening?_notes, readLines_block hfree, List.nil_append, joinLines_lines]
  rfl

/-- The version is read back unless a newline cuts it off. -/
theorem readLines_version_iff (resolution : Resolution) :
    readLines none
        (lines ("version=".toList ++ resolution.finalVersion) ++ laterLines resolution) =
        some (outputs resolution) ↔
      '\n' ∉ resolution.finalVersion := by
  constructor
  · intro hread hnewline
    obtain ⟨first, rest, hversion, hfirst⟩ := List.eq_append_cons_of_mem hnewline
    have hline : '\n' ∉ "version=".toList ++ first := by simp [hfirst]
    have hlines : lines ("version=".toList ++ resolution.finalVersion) =
        ("version=".toList ++ first) :: lines rest := by
      rw [hversion, ← List.append_assoc, lines_append_newline hline]
    rw [hlines, List.cons_append,
      readLines_assignment (opening?_version first) (assignment?_version first)] at hread
    -- Whatever follows, the version that is read ends at its first newline.
    obtain ⟨others, _, hothers⟩ := Option.map_eq_some_iff.mp hread
    have hvalue : first = resolution.finalVersion :=
      congrArg Output.value (List.cons.inj hothers).1
    rw [← hvalue] at hnewline
    exact hfirst hnewline
  · intro h
    have hline : '\n' ∉ "version=".toList ++ resolution.finalVersion := by simp [h]
    rw [lines_eq_singleton hline, List.singleton_append,
      readLines_assignment (opening?_version _) (assignment?_version _), readLines_laterLines]
    rfl

/-! ## Reading back -/

/--
The step outputs of a resolution with a number of commits that can be written are read back exactly
if its version holds no newline, whatever lines the notes hold. An answered resolution has a newline
in its version exactly if it has a commit with text, is no release, and the revision or the trimmed
identifier of the pull request brings one.
-/
theorem read_render_iff (resolution : Resolution) :
    (resolution.commitCount < 10 ^ numeralLimit →
      ∃ text, render resolution = .ok text ∧
        (read text = some [⟨"version".toList, resolution.finalVersion⟩,
            ⟨"commit_count".toList, decimal resolution.commitCount⟩,
            ⟨"notes".toList, dropLastNewlines resolution.releaseNotes⟩] ↔
          '\n' ∉ resolution.finalVersion)) ∧
      ∀ request, resolve request = .ok resolution →
        ('\n' ∈ resolution.finalVersion ↔
          (∃ message ∈ request.messages, allBlank message = false) ∧
            resolution.scenario ≠ .release ∧
            ('\n' ∈ request.context.shortRevision ∨
              resolution.scenario = .pullRequest ∧
                '\n' ∈ trim (request.context.pullRequestId.getD []))) := by
  refine ⟨fun hcount => ?_, fun request hresolve => newline_mem_finalVersion hresolve⟩
  obtain ⟨text, hrender, hlines⟩ := render_eq_ok hcount
  refine ⟨text, hrender, ?_⟩
  rw [read, hlines]
  exact readLines_version_iff resolution

/-- A feature on a branch, under a title that puts two delimiters on lines of the notes. -/
def delimitersInNotes (revision : Text) : Request where
  lastTag := some "v1.0.0".toList
  messages := ["feat: a".toList]
  context := { currentBranch := ['b'], defaultBranch := ['d'], shortRevision := revision }
  settings := { notesTitle := "Notes\nEOF\n_EOF_".toList }

theorem delimitersInNotes_read_back :
    (∃ resolution text, resolve (delimitersInNotes "abc".toList) = .ok resolution ∧
      resolution.commitCount < 10 ^ numeralLimit ∧ render resolution = .ok text ∧
      read text = some [⟨"version".toList, "1.1.0-br+abc".toList⟩, ⟨"commit_count".toList, ['1']⟩,
        ⟨"notes".toList, "# Notes\nEOF\n_EOF_\n\n## New Features\n\n- feat: a".toList⟩]) ∧
    ∃ resolution, resolve (delimitersInNotes "abc\nnotes=".toList) = .ok resolution ∧
      '\n' ∈ resolution.finalVersion := by
  constructor
  · obtain ⟨resolution, hresolve, hcount, hvalues⟩ : ∃ resolution,
        resolve (delimitersInNotes "abc".toList) = .ok resolution ∧ resolution.commitCount = 1 ∧
          outputs resolution = [⟨"version".toList, "1.1.0-br+abc".toList⟩,
            ⟨"commit_count".toList, ['1']⟩, ⟨"notes".toList,
              "# Notes\nEOF\n_EOF_\n\n## New Features\n\n- feat: a".toList⟩] :=
      ⟨_, rfl, rfl, by decide +kernel⟩
    have hfew : resolution.commitCount < 10 ^ numeralLimit := by
      rw [hcount]
      exact Nat.one_lt_pow (by decide) (by decide)
    have hversion : '\n' ∉ resolution.finalVersion := by
      rw [(read_render_iff resolution).2 _ hresolve]
      rintro ⟨_, _, h | ⟨_, h⟩⟩
      · exact absurd h (by decide)
      · exact absurd h (by decide)
    obtain ⟨text, hrender, hread⟩ := (read_render_iff resolution).1 hfew
    refine ⟨resolution, text, hresolve, hfew, hrender, ?_⟩
    rw [← hvalues]
    exact hread.mpr hversion
  · obtain ⟨resolution, hresolve, hscenario⟩ : ∃ resolution,
        resolve (delimitersInNotes "abc\nnotes=".toList) = .ok resolution ∧
          resolution.scenario = .otherBranch := ⟨_, rfl, rfl⟩
    refine ⟨resolution, hresolve, ((read_render_iff resolution).2 _ hresolve).mpr ⟨?_, ?_, ?_⟩⟩
    · exact ⟨"feat: a".toList, List.mem_singleton_self _, by decide⟩
    · simp [hscenario]
    · exact .inl (by decide)

end NextRelease.StepOutput
