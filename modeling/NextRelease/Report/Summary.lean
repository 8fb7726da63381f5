import NextRelease.Resolution.Basic

/-!
# Summaries of a resolution

Five facts sum a resolution up. As a Markdown table they are followed by the reasons, which are
one line when version and suffix have the same reason, and by the advisories.
-/

namespace NextRelease

open Text

namespace Report

def title : Text := "📌 VERSION CALCULATION SUMMARY".toList

/-- The base version, after the previous one if it is another. -/
def baseText (resolution : Resolution) : Except Failure Text := do
  if resolution.baseVersion = resolution.previousVersion then resolution.baseVersion.write
  else
    let previous ← resolution.previousVersion.write
    let base ← resolution.baseVersion.write
    return previous ++ " → ".toList ++ base

def facts (resolution : Resolution) : Except Failure (List (Text × Text)) := do
  let base ← baseText resolution
  let count ← writeNumber resolution.commitCount
  return [
    ("Last tag".toList,
      if resolution.lastTag = [] then "(none)".toList else resolution.lastTag),
    ("Commits since".toList, count),
    ("Base version".toList, base),
    ("Final version".toList, resolution.finalVersion),
    ("Scenario".toList, resolution.scenario.name)]

def row (fact : Text × Text) : Text :=
  "| ".toList ++ fact.1 ++ " | `".toList ++ fact.2 ++ "` |".toList

def tableRule : Text := "|-------|-------|".toList

def reasonLines (resolution : Resolution) : List Text :=
  if resolution.versionReason = resolution.suffixReason then
    ["💡 **Reason:** ".toList ++ resolution.versionReason]
  else [
    "💡 **Version increment:** ".toList ++ resolution.versionReason,
    "💡 **Suffix applied:** ".toList ++ resolution.suffixReason]

def markdown (resolution : Resolution) : Except Failure Text := do
  let rows := (← facts resolution).map row
  let head := ["## ".toList ++ title, [], "| Field | Value |".toList, tableRule]
  let advisories := resolution.advisories.map ("⚠️ ".toList ++ ·)
  return joinLines (head ++ rows ++ [] :: reasonLines resolution ++ advisories) ++ ['\n']

end Report

end NextRelease
