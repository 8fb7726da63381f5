import NextRelease.Layout.Columns
import NextRelease.Layout.Markup
import NextRelease.Layout.Sentence
import NextRelease.Report.Summary

/-!
# Summaries on a console

On a console the facts stand in a table, followed by the reasons and the advisories, which are
wrapped to the width of the console.
-/

namespace NextRelease

open Text Layout

namespace Report

/-- The width of a summary that is kept as a text. -/
def textWidth : Nat := 100

/-- The width of a console that does not say how wide it is. -/
def consoleWidth : Nat := 80

def onConsole (value : Text) : Text := dropControls (shown (escape value))

def remark (width : Nat) (label : String) (text : Text) : List Text :=
  sentence width (label.toList ++ onConsole text)

/-- The lines of the summary on a console of the given width. -/
def board (width : Nat) (resolution : Resolution) : Except Failure (List Text) := do
  let rows := (← facts resolution).map fun fact => (fact.1, onConsole fact.2)
  return table width title ("Field".toList, "Value".toList) rows ++
    remark width "Version increment: " resolution.versionReason ++
    remark width "Suffix applied:    " resolution.suffixReason ++
    resolution.advisories.flatMap (remark width "warning: ")

/-- The summary as it is printed: every line ends in a newline. -/
def printed (width : Nat) (resolution : Resolution) : Except Failure Text := do
  return (← board width resolution).flatMap (· ++ ['\n'])

/-- The summary as a text, without newlines at its end. -/
def boardText (resolution : Resolution) : Except Failure Text := do
  return dropLastNewlines (← printed textWidth resolution)

end Report

end NextRelease
