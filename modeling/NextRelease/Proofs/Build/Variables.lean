import NextRelease.Build.Environment
import NextRelease.Proofs.Version.Grammar

/-!
# What a context takes from an environment

A context is made of seven variables, of which only the trimmed texts count; an absent variable is
a blank one. Only the count of commits can be wrong: it must consist of decimal digits, of whatever
script, and of no more than can be read. No sign gets through, so a context is never refused for a
negative count.
-/

namespace NextRelease

open Text

namespace Environment

variable {environment first second : Environment} {settings : Settings} {failure : Failure}

/-! ## The count of commits -/

section

variable {name : String} (h : first.value name = second.value name)
include h

end

/-- Digits of any script between blanks are a count; a sign is none. -/
example : commitCount [("COMMIT_COUNT".toList, " 1\u0662\n".toList)] = .ok 12 := rfl

end Environment

end NextRelease
