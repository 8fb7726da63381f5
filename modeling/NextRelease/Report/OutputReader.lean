import NextRelease.Report.StepOutput

/-!
# Reading step outputs

Step outputs are read line by line. A line with two smaller-than signs before any equals sign
opens a block, whose value reaches up to the next line that is the delimiter. Any other line is a
name and a value around its first equals sign. A text with another line, or with a block that is
never closed, is refused.
-/

namespace NextRelease

open Text

namespace StepOutput

/-- A value that a step hands on, with its name. -/
structure Output where
  name : Text
  value : Text
  deriving DecidableEq, Repr

/-- The name and the delimiter of a line that opens a block. -/
def opening? : Text → Option (Text × Text)
  | '<' :: '<' :: delimiter => some ([], delimiter)
  | c :: rest =>
    if c = '=' then none else (opening? rest).map fun (name, delimiter) => (c :: name, delimiter)
  | [] => none

/-- The output of a line of its own. -/
def assignment? (line : Text) : Option Output :=
  match line.dropWhile (· ≠ '=') with
  | _ :: value => some ⟨line.takeWhile (· ≠ '='), value⟩
  | [] => none

/-- A block that is not closed yet. -/
structure OpenBlock where
  name : Text
  delimiter : Text
  /-- The lines of the value so far. -/
  value : List Text := []
  deriving DecidableEq, Repr

/-- The outputs of the lines that follow, perhaps inside a block. -/
def readLines : Option OpenBlock → List Text → Option (List Output)
  | none, [] => some []
  | some _, [] => none
  | some block, line :: rest =>
    if line = block.delimiter then
      (readLines none rest).map (⟨block.name, joinLines block.value⟩ :: ·)
    else readLines (some { block with value := block.value ++ [line] }) rest
  | none, line :: rest =>
    match opening? line with
    | some (name, delimiter) => readLines (some ⟨name, delimiter, []⟩) rest
    | none => do
      let output ← assignment? line
      return output :: (← readLines none rest)

def read (text : Text) : Option (List Output) := readLines none (closedLines text)

end StepOutput

end NextRelease
