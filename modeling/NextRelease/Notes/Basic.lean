import NextRelease.Commit.Classify

/-!
# Release notes

The notes list the commits in one section per category, in a fixed order; a category without
commits has no section. Within a section the commits keep their order. The text of a commit is
kept except for blanks at its edges and at the ends of its lines; the lines after the first are
indented, so that they stay inside the item.
-/

namespace NextRelease

open Text

def Category.heading : Category → Text
  | .breaking => "Breaking Changes".toList
  | .feature => "New Features".toList
  | .fix => "Bug Fixes".toList
  | .docs => "Documentation".toList
  | .chore => "Maintenance & Refactoring".toList
  | .other => "Other Changes".toList

def Category.emoji : Category → Text
  | .breaking => ['🚨']
  | .feature => ['✨']
  | .fix => ['🐛']
  | .docs => ['📝']
  | .chore => ['⚙', '\ufe0f']
  | .other => ['🔀']

namespace Notes

def defaultTitle : Text := "Release ".toList ++ placeholder

def noChanges : Text := "No changes since last release.".toList

/-- The commits of each category that has some, in section order. -/
def sections (commits : List Commit) : List (Category × List Commit) :=
  (Category.all.map fun category => (category, commits.filter (·.category = category))).filter
    fun group => group.2 ≠ []

/-- A line of a message below the first: indented, or empty if it is blank. -/
def continuation (line : Text) : Text :=
  if allBlank line then [] else "  ".toList ++ trimRight line

/-- The lines of one item: the subject after a dash, and the rest of the message. -/
def item (message : Text) : List Text :=
  match lines (trim message) with
  | [] => []
  | first :: rest => ("- ".toList ++ trimRight first) :: rest.map continuation

/-- The heading of a section, with the emoji of the category in front if asked for. -/
def sectionHeading (emoji : Bool) (category : Category) : Text :=
  if emoji then category.emoji ++ ' ' :: category.heading else category.heading

/-- The lines of one section, an empty one at the end. -/
def sectionLines (emoji : Bool) (group : Category × List Commit) : List Text :=
  ("## ".toList ++ sectionHeading emoji group.1) :: [] ::
    group.2.flatMap (fun commit => item commit.message) ++ [[]]

/-- The title line: every placeholder of the template takes the version. -/
def titleLine (title version : Text) : Text := "# ".toList ++ replace placeholder version title

/-- The notes of a version, which end in one newline. -/
def render (version : Text) (commits : List Commit) (title : Text := defaultTitle)
    (emoji : Bool := false) : Text :=
  let head := [titleLine title version, []]
  if commits = [] then joinLines (head ++ [noChanges]) ++ ['\n']
  else
    dropLastNewlines (joinLines (head ++ (sections commits).flatMap (sectionLines emoji))) ++ ['\n']

end Notes

end NextRelease
