import NextRelease.Notes.Basic

/-!
# Reading release notes

Release notes are read line by line. Under the title, a line says by its first characters what it
is: a heading starts a section, a dash starts an item, and an indented line goes on with the item
above. An empty line belongs to an item only if the item goes on after it. All other lines say
nothing.
-/

namespace NextRelease

open Text

namespace Notes

inductive LineRole
  | heading (category : Category)
  | itemStart (text : Text)
  | itemRest (text : Text)
  | empty
  | aside
  deriving DecidableEq, Repr

/-- The category with a heading, which may carry the emoji. -/
def categoryOfHeading? (heading : Text) : Option Category :=
  Category.all.find? fun category =>
    heading = sectionHeading false category || heading = sectionHeading true category

/-- What a line is, by its first characters. -/
def roleOf : Text → LineRole
  | [] => .empty
  | '#' :: '#' :: ' ' :: heading =>
    match categoryOfHeading? heading with
    | some category => .heading category
    | none => .aside
  | '-' :: ' ' :: text => .itemStart text
  | ' ' :: ' ' :: text => .itemRest text
  | _ => .aside

/-- What the lines from some line on hold. -/
structure Outline where
  /-- The lines that go on with the item above. -/
  rest : List Text := []
  /-- The items of the section above. -/
  items : List Text := []
  /-- The sections that start here. -/
  sections : List (Category × List Text) := []
  deriving DecidableEq, Repr

/-- One more line in front of an outline. -/
def Outline.add (outline : Outline) : LineRole → Outline
  | .heading category => ⟨[], [], (category, outline.items) :: outline.sections⟩
  | .itemStart text => ⟨[], joinLines (text :: outline.rest) :: outline.items, outline.sections⟩
  | .itemRest text => { outline with rest := text :: outline.rest }
  | .empty => if outline.rest = [] then outline else { outline with rest := [] :: outline.rest }
  | .aside => outline

def outline : List Text → Outline
  | [] => {}
  | line :: rest => (outline rest).add (roleOf line)

/-- The sections of release notes with the text of each item. -/
def read (notes : Text) : List (Category × List Text) := (outline ((lines notes).drop 1)).sections

/-- The sections with what layout leaves of the text of each commit. -/
def tidySections (commits : List Commit) : List (Category × List Text) :=
  (sections commits).map fun (category, members) =>
    (category, members.map fun commit => tidy commit.message)

end Notes

end NextRelease
