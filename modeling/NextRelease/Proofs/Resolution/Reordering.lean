import NextRelease.Proofs.Resolution.Append

/-!
# What the order of messages changes

A resolution looks at the messages in two ways: at their counts, which do not depend on any order,
and at the commits of each category in their order, for the notes. So messages in another order
change only the list of commits and the notes, and not even the notes if the order within each
category stays. Blank messages are dropped before anything else, so they never make a difference.
All of this holds of failures as well.
-/

namespace NextRelease

open Text

/-! ## Answers up to order -/

namespace Resolution

/-- An answer without its list of commits. -/
def withoutCommits (resolution : Resolution) : Resolution := { resolution with commits := [] }

/-- An answer without its list of commits and without its notes. -/
def withoutOrder (resolution : Resolution) : Resolution :=
  { resolution with commits := [], releaseNotes := [] }

end Resolution

/-! ## Counts, sections and notes -/

theorem Counts.ofCommits_perm {first second : List Commit} (h : first.Perm second) :
    ofCommits first = ofCommits second := by
  simp only [ofCommits, h.countP_eq]

theorem classifyAll_perm {xs ys : List Text}
    (h : (xs.filter (!allBlank ·)).Perm (ys.filter (!allBlank ·))) :
    (classifyAll xs).Perm (classifyAll ys) := h.map _

/-- The commits of a category come from the messages that are classified into it. -/
theorem filter_category_classifyAll (messages : List Text) (category : Category) :
    (classifyAll messages).filter (·.category = category) =
      (messages.filter fun message => !allBlank message && classify message = category).map
        fun message => ⟨message, classify message⟩ := by
  rw [classifyAll, List.filter_map, List.filter_filter]
  congr 2
  funext message
  simp [Bool.and_comm]

namespace Notes

theorem eq_nil_of_filter_category {commits : List Commit}
    (h : ∀ category, commits.filter (·.category = category) = []) : commits = [] := by
  rw [List.eq_nil_iff_forall_not_mem]
  intro commit hcommit
  have hown := List.filter_eq_nil_iff.mp (h commit.category) commit hcommit
  simp at hown

/-- The notes depend only on the commits of each category. -/
theorem render_congr {first second : List Commit}
    (h : ∀ category, first.filter (·.category = category) = second.filter (·.category = category))
    (version title : Text) (emoji : Bool) :
    render version first title emoji = render version second title emoji := by
  have hsections : sections first = sections second := by simp only [sections, h]
  have hempty : first = [] ↔ second = [] := by
    constructor
    · rintro rfl
      exact eq_nil_of_filter_category fun category => (h category).symm
    · rintro rfl
      exact eq_nil_of_filter_category h
  simp only [render, hsections, hempty]

end Notes

/-! ## Two lists of messages -/

variable {request : Request} {xs ys : List Text}

/-- Messages in another order are resolved alike in every respect in which the answers agree. -/
theorem resolve_map_congr {f : Resolution → Resolution}
    (h : (classifyAll xs).Perm (classifyAll ys))
    (hchanged : ∀ reading reason,
      f (Request.changedAnswer { request with messages := xs } reading reason) =
        f (Request.changedAnswer { request with messages := ys } reading reason)) :
    f <$> resolve { request with messages := xs } =
      f <$> resolve { request with messages := ys } := by
  have hnone : Request.commits { request with messages := xs } = [] ↔
      Request.commits { request with messages := ys } = [] := by
    rw [Request.commits, Request.commits, ← List.length_eq_zero_iff, h.length_eq,
      List.length_eq_zero_iff]
  refine map_resolve_eq rfl rfl hnone (Counts.ofCommits_perm h) (fun hys reading => ?_) hchanged
  -- Without commits there is nothing to reorder.
  simp only [Request.unchangedAnswer, Request.notes, hys, hnone.mpr hys]

/-- Messages that are classified alike are resolved alike. -/
theorem resolve_congr (h : classifyAll xs = classifyAll ys) :
    resolve { request with messages := xs } = resolve { request with messages := ys } := by
  have hcommits : Request.commits { request with messages := xs } =
      Request.commits { request with messages := ys } := h
  have hid : id <$> resolve { request with messages := xs } =
      id <$> resolve { request with messages := ys } := by
    refine resolve_map_congr (.of_eq h) fun reading reason => ?_
    simp only [Request.changedAnswer, Request.notes, Request.counts, hcommits]
  rwa [id_map, id_map] at hid

/--
Of the order of messages only little matters. Under one tag, context and settings, messages that
are the same up to order and blank ones fail alike or have answers that differ in nothing but the
commits and the notes. The notes are the same as well if the messages of each category stand in the
same order. If blank messages are all that differs, the answers do not differ at all.
-/
theorem resolve_perm (h : (xs.filter (!allBlank ·)).Perm (ys.filter (!allBlank ·))) :
    Resolution.withoutOrder <$> resolve { request with messages := xs } =
        Resolution.withoutOrder <$> resolve { request with messages := ys } ∧
      ((∀ category,
          (xs.filter fun message => !allBlank message && classify message = category) =
            ys.filter fun message => !allBlank message && classify message = category) →
        Resolution.withoutCommits <$> resolve { request with messages := xs } =
          Resolution.withoutCommits <$> resolve { request with messages := ys }) ∧
      (xs.filter (!allBlank ·) = ys.filter (!allBlank ·) →
        resolve { request with messages := xs } = resolve { request with messages := ys }) := by
  have hcommits : (classifyAll xs).Perm (classifyAll ys) := classifyAll_perm h
  have hcounts : Request.counts { request with messages := xs } =
      Request.counts { request with messages := ys } := Counts.ofCommits_perm hcommits
  refine ⟨resolve_map_congr hcommits ?_, ?_, ?_⟩
  · intro reading reason
    simp only [Resolution.withoutOrder, Request.changedAnswer, hcounts]
  · intro hsame
    have hnotes : ∀ version, Request.notes { request with messages := xs } version =
        Request.notes { request with messages := ys } version := by
      refine fun version => Notes.render_congr (fun category => ?_) _ _ _
      simp only [Request.commits, filter_category_classifyAll, hsame]
    refine resolve_map_congr hcommits fun reading reason => ?_
    simp only [Resolution.withoutCommits, Request.changedAnswer, hcounts, hnotes]
  · intro hsame
    refine resolve_congr ?_
    rw [classifyAll, classifyAll, hsame]

/-- A fix and a feature, with a blank message between them. -/
def fixFirst : List Text := ["fix: a".toList, " ".toList, "feat: b".toList]

/-- The same in the other order, without the blank message. -/
def featureFirst : List Text := ["feat: b".toList, "fix: a".toList]

theorem featureFirst_perm :
    (fixFirst.filter (!allBlank ·)).Perm (featureFirst.filter (!allBlank ·)) ∧
      ∃ resolution,
        resolve { emptyRelease with messages := fixFirst } = .ok resolution ∧
        Resolution.withoutCommits <$> resolve { emptyRelease with messages := featureFirst } =
          .ok resolution.withoutCommits := by
  have hperm : (fixFirst.filter (!allBlank ·)).Perm (featureFirst.filter (!allBlank ·)) := by
    decide
  obtain ⟨resolution, hresolution⟩ : ∃ resolution,
      resolve { emptyRelease with messages := fixFirst } = .ok resolution := ⟨_, rfl⟩
  have hsame : Resolution.withoutCommits <$> resolve { emptyRelease with messages := fixFirst } =
      Resolution.withoutCommits <$> resolve { emptyRelease with messages := featureFirst } :=
    (resolve_perm hperm).2.1 fun category => by cases category <;> rfl
  refine ⟨hperm, resolution, hresolution, ?_⟩
  rw [← hsame, hresolution]
  rfl

end NextRelease
