import NextRelease.Commit.Classify
import NextRelease.Proofs.Text.Caseless

/-!
# Layout does not change the category of a commit

A message is judged by its subject and by the footer of a breaking change. The subject is read from
the trimmed message and trimmed again, and the footer is a word on one line, so tidying the message
first changes neither. Reclassifying what layout leaves of a message gives the same category.
-/

namespace NextRelease

open Text

/-- The footer of a breaking change is a word that layout leaves whole. -/
theorem isSolid_breakingFooter : IsSolid ("BREAKING CHANGE:".toList.map foldCase) := by
  have hfolded : "BREAKING CHANGE:".toList.map foldCase = "breaking change:".toList := by decide
  rw [hfolded]
  refine ⟨by decide, fun c hc => ?_, fun c hc => ?_⟩
  · obtain rfl : 'b' = c := Option.mem_some_iff.mp hc
    decide
  · obtain rfl : ':' = c := Option.mem_some_iff.mp hc
    decide

theorem hasBreakingFooter_tidy (message : Text) :
    hasBreakingFooter (tidy message) = hasBreakingFooter message :=
  occursCaseless_tidy isSolid_breakingFooter message

/-- The subject is trimmed anyway. -/
theorem subjectLine_tidy (message : Text) : subjectLine (tidy message) = subjectLine message := by
  obtain ⟨first, rest, hlines⟩ := List.exists_cons_of_ne_nil (lines_ne_nil (trim message))
  have htidy : lines (tidy message) = trimRight first :: rest.map trimRight := by
    rw [lines_tidy, hlines, List.map_cons]
  rw [subjectLine_eq, subjectLine_eq, trim_tidy, firstLine_eq htidy, firstLine_eq hlines,
    trim_trimRight]

theorem classify_tidy_eq (message : Text) : classify (tidy message) = classify message := by
  have hmatching : ∀ subject,
      matchingCategories (tidy message) subject = matchingCategories message subject := by
    intro subject
    simp only [matchingCategories, classificationRules, List.filter_cons, hasBreakingFooter_tidy,
      List.filter_nil]
  rw [classify, classify, allBlank_tidy, subjectLine_tidy, hmatching]

/-- The commit with what layout leaves of its message. -/
def Commit.tidied (commit : Commit) : Commit := { commit with message := tidy commit.message }

theorem classifyAll_map_tidy (messages : List Text) :
    classifyAll (messages.map tidy) = (classifyAll messages).map Commit.tidied := by
  simp [classifyAll, List.filter_map, Function.comp_def, allBlank_tidy, classify_tidy_eq,
    Commit.tidied]

end NextRelease
