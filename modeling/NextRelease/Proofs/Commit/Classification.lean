import NextRelease.Proofs.Commit.Breaking

/-!
# The classification table

A message that announces a breaking change is one, whatever its subject begins with; any other one
is judged by the first word of its subject. No word of a row begins with a word of another row, so
at most one of these rows applies and their order is of no account. Only the row of breaking changes
needs its place: a table that tries another row first takes some breaking change for less.
-/

namespace NextRelease

open Text

/-! ## Words -/

namespace Category

/-- The words at the start of a subject, in lower case, that speak for a category. -/
def words : Category → List Text
  | feature => ["feat".toList]
  | fix => ["fix".toList]
  | docs => ["doc".toList]
  | chore => ["chore".toList, "refactor".toList, "style".toList, "test".toList, "ci".toList,
      "build".toList]
  | _ => []

/-- No word of one category begins with a word of another one. -/
theorem eq_of_words_overlap {a b : Category} {first second : Text} (hfirst : first ∈ a.words)
    (hsecond : second ∈ b.words) (h : first <+: second) : a = b := by
  have hall : ∀ a ∈ all, ∀ b ∈ all, ∀ first ∈ a.words, ∀ second ∈ b.words,
      first <+: second → a = b := by decide
  exact hall a (mem_all a) b (mem_all b) first hfirst second hsecond h

/-- The subject of the message begins with a word of the category, in any case. -/
def Begins (category : Category) (message : Text) : Prop :=
  ∃ word ∈ category.words, word <+: lowerCase (subjectLine message)

theorem begins_iff {category : Category} {message : Text} :
    startsWithWord category.words (subjectLine message) = true ↔ category.Begins message := by
  simp only [startsWithWord, List.any_eq_true, List.isPrefixOf_iff_prefix, Begins]

instance (category : Category) (message : Text) : Decidable (category.Begins message) :=
  decidable_of_iff _ begins_iff

/-- The words of one category at most begin a subject. -/
theorem Begins.unique {a b : Category} {message : Text} (ha : a.Begins message)
    (hb : b.Begins message) : a = b := by
  obtain ⟨first, hfirst, hfirstPrefix⟩ := ha
  obtain ⟨second, hsecond, hsecondPrefix⟩ := hb
  cases List.prefix_or_prefix_of_prefix hfirstPrefix hsecondPrefix with
  | inl h => exact eq_of_words_overlap hfirst hsecond h
  | inr h => exact (eq_of_words_overlap hsecond hfirst h).symm

/-- No word begins the subject of a blank message. -/
theorem not_begins_of_allBlank {category : Category} {message : Text}
    (h : allBlank message = true) : ¬category.Begins message := by
  rintro ⟨word, hword, hprefix⟩
  have hempty : word = [] := by
    rw [subjectLine_of_allBlank h] at hprefix
    exact List.prefix_nil.mp hprefix
  have hall : ∀ category ∈ all, ∀ word ∈ category.words, word ≠ [] := by decide
  exact hall category (mem_all category) word hword hempty

/-- The categories that have words of their own, in the order of their rows. -/
def worded : List Category := [feature, fix, docs, chore]

theorem Begins.mem_worded {category : Category} {message : Text} (h : category.Begins message) :
    category ∈ worded := by
  obtain ⟨word, hword, _⟩ := h
  cases category <;> simp [worded, words] at hword ⊢

/-- The words of a category begin the subject: those of no other one do. -/
theorem filter_begins_eq {category : Category} {message : Text} (h : category.Begins message) :
    worded.filter (·.Begins message) = [category] := by
  have hfilter : worded.filter (·.Begins message) = worded.filter (· = category) := by
    refine List.filter_congr fun found _ => decide_eq_decide.mpr ?_
    constructor
    · exact fun hfound => hfound.unique h
    · rintro rfl
      exact h
  have hsingle : ∀ category ∈ worded, worded.filter (· = category) = [category] := by decide
  rw [hfilter, hsingle category h.mem_worded]

end Category

/-! ## Rows -/

/-- The row of breaking changes, which looks at more than the start of the subject. -/
def breakingRow : Rule where
  category := .breaking
  applies message subject := hasBreakingFooter message || isBreakingSubject subject

/-- The row of the words that speak for a category. -/
def wordRow (category : Category) : Rule where
  category := category
  applies _ subject := startsWithWord category.words subject

theorem classificationRules_eq :
    classificationRules = breakingRow :: Category.worded.map wordRow := rfl

/-- The rows of a table that apply to a message. -/
def rowsApplying (rules : List Rule) (message : Text) : List Rule :=
  rules.filter (·.applies message (subjectLine message))

theorem rowsApplying_cons (row : Rule) (rest : List Rule) (message : Text) :
    rowsApplying (row :: rest) message =
      if row.applies message (subjectLine message) then row :: rowsApplying rest message
      else rowsApplying rest message :=
  List.filter_cons

/-- The category by a table of which the first row that applies decides. -/
def classifyBy (rules : List Rule) (message : Text) : Category :=
  if allBlank message then .other else ((rowsApplying rules message).map (·.category)).headD .other

theorem classifyBy_classificationRules (message : Text) :
    classifyBy classificationRules message = classify message := rfl

section

variable {rules : List Rule} {category : Category} {message : Text}

theorem rowsApplying_wordRows (message : Text) :
    rowsApplying (Category.worded.map wordRow) message =
      (Category.worded.filter (·.Begins message)).map wordRow := by
  rw [rowsApplying, List.filter_map]
  congr 1
  refine List.filter_congr fun category _ => ?_
  rw [Bool.eq_iff_iff, decide_eq_true_iff]
  exact Category.begins_iff

/-- One of the rows of words applies at most. -/
theorem length_rowsApplying_wordRows_le (message : Text) :
    (rowsApplying (Category.worded.map wordRow) message).length ≤ 1 := by
  rw [rowsApplying_wordRows, List.length_map]
  by_cases h : ∃ category : Category, category.Begins message
  · obtain ⟨category, hbegins⟩ := h
    rw [Category.filter_begins_eq hbegins]
    exact le_refl 1
  · rw [List.filter_eq_nil_iff.mpr fun category _ => by simpa using not_exists.mp h category]
    exact Nat.zero_le 1

/-! ## The category of a message -/

theorem classifyBy_cons_of_applies {row : Rule} {rest : List Rule}
    (hblank : allBlank message = false) (h : row.applies message (subjectLine message) = true) :
    classifyBy (row :: rest) message = row.category := by
  rw [classifyBy, hblank, rowsApplying_cons, if_pos h]
  rfl

theorem classifyBy_cons_of_not_applies {row : Rule} {rest : List Rule}
    (h : ¬row.applies message (subjectLine message) = true) :
    classifyBy (row :: rest) message = classifyBy rest message := by
  rw [classifyBy, classifyBy, rowsApplying_cons, if_neg h]

theorem classify_of_announcesBreaking (h : AnnouncesBreaking message) :
    classify message = .breaking :=
  classifyBy_cons_of_applies h.allBlank_eq_false (announcesBreaking_iff.mpr h)

/-- A message that announces no breaking change is judged by the rows of words alone. -/
theorem classify_of_not_announcesBreaking (h : ¬AnnouncesBreaking message) :
    classify message = classifyBy (Category.worded.map wordRow) message :=
  classifyBy_cons_of_not_applies (mt announcesBreaking_iff.mp h)

theorem classify_of_begins (h : ¬AnnouncesBreaking message) (hbegins : category.Begins message) :
    classify message = category := by
  have hblank : allBlank message = false :=
    Bool.eq_false_iff.mpr fun hblank => Category.not_begins_of_allBlank hblank hbegins
  rw [classify_of_not_announcesBreaking h, classifyBy, hblank, rowsApplying_wordRows,
    Category.filter_begins_eq hbegins]
  rfl

theorem classify_of_not_begins (h : ¬AnnouncesBreaking message)
    (hnone : ∀ category : Category, ¬category.Begins message) : classify message = .other := by
  have hrows : rowsApplying (Category.worded.map wordRow) message = [] := by
    rw [rowsApplying_wordRows,
      List.filter_eq_nil_iff.mpr fun category _ => by simpa using hnone category]
    rfl
  rw [classify_of_not_announcesBreaking h, classifyBy, hrows]
  exact ite_self _

/-- A message announces a breaking change, or begins with a word of one category, or neither. -/
theorem classify_cases (message : Text) :
    AnnouncesBreaking message ∧ classify message = .breaking ∨
      ¬AnnouncesBreaking message ∧ ((classify message).Begins message ∨
        (∀ category : Category, ¬category.Begins message) ∧ classify message = .other) := by
  by_cases h : AnnouncesBreaking message
  · exact .inl ⟨h, classify_of_announcesBreaking h⟩
  · by_cases hbegins : ∃ category : Category, category.Begins message
    · obtain ⟨category, hcategory⟩ := hbegins
      refine .inr ⟨h, .inl ?_⟩
      rw [classify_of_begins h hcategory]
      exact hcategory
    · rw [not_exists] at hbegins
      exact .inr ⟨h, .inr ⟨hbegins, classify_of_not_begins h hbegins⟩⟩

theorem classify_eq_breaking_iff : classify message = .breaking ↔ AnnouncesBreaking message := by
  constructor
  · intro hbreaking
    rcases classify_cases message with ⟨h, _⟩ | ⟨_, hbegins | ⟨_, hother⟩⟩
    · exact h
    · rw [hbreaking] at hbegins
      exact absurd hbegins.mem_worded (by decide)
    · cases hbreaking.symm.trans hother
  · exact classify_of_announcesBreaking

theorem classify_eq_word_iff (h : category ∈ Category.worded) :
    classify message = category ↔ ¬AnnouncesBreaking message ∧ category.Begins message := by
  constructor
  · rintro rfl
    rcases classify_cases message with ⟨_, hbreaking⟩ | ⟨hnot, hbegins | ⟨_, hother⟩⟩
    · rw [hbreaking] at h
      exact absurd h (by decide)
    · exact ⟨hnot, hbegins⟩
    · rw [hother] at h
      exact absurd h (by decide)
  · rintro ⟨hnot, hbegins⟩
    exact classify_of_begins hnot hbegins

theorem classify_eq_other_iff :
    classify message = .other ↔
      ¬AnnouncesBreaking message ∧ ∀ category ∈ Category.worded, ¬category.Begins message := by
  constructor
  · intro hother
    rcases classify_cases message with ⟨_, hbreaking⟩ | ⟨hnot, hbegins | ⟨hnone, _⟩⟩
    · cases hother.symm.trans hbreaking
    · rw [hother] at hbegins
      exact absurd hbegins.mem_worded (by decide)
    · exact ⟨hnot, fun category _ => hnone category⟩
  · rintro ⟨hnot, hnone⟩
    exact classify_of_not_begins hnot fun category hbegins =>
      hnone category hbegins.mem_worded hbegins

/-- Nothing of a message matters but its subject and whether it has the footer. -/
theorem classify_congr {first second : Text} (hsubject : subjectLine first = subjectLine second)
    (hfooter : HasBreakingFooter first ↔ HasBreakingFooter second) :
    classify first = classify second := by
  have hannounces : AnnouncesBreaking first ↔ AnnouncesBreaking second := by
    rw [AnnouncesBreaking, AnnouncesBreaking, hfooter, hsubject]
  have hbegins : ∀ category : Category, category.Begins first ↔ category.Begins second := by
    intro category
    rw [Category.Begins, Category.Begins, hsubject]
  rcases classify_cases first with ⟨h, heq⟩ | ⟨h, hfirst | ⟨hnone, heq⟩⟩
  · rw [heq, classify_of_announcesBreaking (hannounces.mp h)]
  · exact (classify_of_begins (mt hannounces.mpr h) ((hbegins _).mp hfirst)).symm
  · rw [heq, classify_of_not_begins (mt hannounces.mpr h) fun category =>
      mt (hbegins category).mpr (hnone category)]

end

/-! ## The order of the rows -/

/-- Rows of words in any order, after that of breaking changes, judge alike. -/
theorem classifyBy_breakingRow_cons {rest : List Rule}
    (h : rest.Perm (Category.worded.map wordRow)) (message : Text) :
    classifyBy (breakingRow :: rest) message = classify message := by
  have hrest : rowsApplying rest message = rowsApplying (Category.worded.map wordRow) message := by
    have hperm := h.filter (·.applies message (subjectLine message))
    -- A list of one row at most has no other order.
    match hrows : rowsApplying (Category.worded.map wordRow) message,
      length_rowsApplying_wordRows_le message with
    | [], _ => exact List.perm_nil.mp (hrows ▸ hperm)
    | [row], _ => exact List.perm_singleton.mp (hrows ▸ hperm)
  rw [← classifyBy_classificationRules, classificationRules_eq, classifyBy, classifyBy,
    rowsApplying_cons, rowsApplying_cons, hrest]

/-- A breaking change may begin with a word of every category. -/
theorem exists_announcesBreaking_begins {category : Category} (h : category ∈ Category.worded) :
    ∃ message, AnnouncesBreaking message ∧ category.Begins message := by
  have hall : ∀ category ∈ Category.worded, ∀ word ∈ category.words,
      AnnouncesBreaking (word ++ "!:".toList) ∧ category.Begins (word ++ "!:".toList) := by decide
  have hwords : ∀ category ∈ Category.worded, category.words ≠ [] := by decide
  obtain ⟨word, hword⟩ := List.exists_mem_of_ne_nil _ (hwords category h)
  exact ⟨_, hall category h word hword⟩

/-- A table that tries a row of words first takes a breaking change for less. -/
theorem exists_classifyBy_wordRow_ne {category : Category} (h : category ∈ Category.worded)
    (rest : List Rule) :
    ∃ message, classifyBy (wordRow category :: rest) message ≠ classify message := by
  obtain ⟨message, hannounces, hbegins⟩ := exists_announcesBreaking_begins h
  refine ⟨message, ?_⟩
  rw [classify_of_announcesBreaking hannounces,
    classifyBy_cons_of_applies hannounces.allBlank_eq_false (Category.begins_iff.mpr hbegins)]
  rintro rfl
  exact absurd h (by decide)

theorem forall_classifyBy_eq_iff {rules : List Rule} (h : rules.Perm classificationRules) :
    (∀ message, classifyBy rules message = classify message) ↔
      rules.head?.map (·.category) = some .breaking := by
  cases rules with
  | nil => cases h.length_eq
  | cons first rest =>
    have hfirst : first ∈ breakingRow :: Category.worded.map wordRow :=
      h.mem_iff.mp List.mem_cons_self
    rcases List.mem_cons.mp hfirst with rfl | hworded
    · exact ⟨fun _ => rfl, fun _ => classifyBy_breakingRow_cons h.cons_inv⟩
    · obtain ⟨category, hcategory, rfl⟩ := List.mem_map.mp hworded
      obtain ⟨message, hne⟩ := exists_classifyBy_wordRow_ne hcategory rest
      constructor
      · exact fun hall => absurd (hall message) hne
      · intro hbreaking
        obtain rfl : category = .breaking := Option.some.inj hbreaking
        exact absurd hcategory (by decide)

/--
Messages are classified by the table and by nothing else. A blank message belongs to no category of
its own. A message is breaking exactly if its footer or its subject announces it; otherwise the
words at the start of its subject decide. One row of words applies at most, so a table with its rows
in another order classifies all messages alike exactly if it still tries the row of breaking changes
first. Messages with the same subject that both have the footer, or both lack it, belong together.
-/
theorem classify_by_table :
    (∀ message,
      (allBlank message = true → classify message = .other) ∧
      (classify message = .breaking ↔ AnnouncesBreaking message) ∧
      (∀ category ∈ [Category.feature, .fix, .docs, .chore],
        classify message = category ↔
          ¬AnnouncesBreaking message ∧ category.Begins message) ∧
      (classify message = .other ↔
        ¬AnnouncesBreaking message ∧
          ∀ category ∈ [Category.feature, .fix, .docs, .chore], ¬category.Begins message) ∧
      (rowsApplying classificationRules.tail message).length ≤ 1) ∧
    (∀ rules : List Rule, rules.Perm classificationRules →
      ((∀ message, classifyBy rules message = classify message) ↔
        rules.head?.map (·.category) = some .breaking)) ∧
    ∀ first second, subjectLine first = subjectLine second →
      (HasBreakingFooter first ↔ HasBreakingFooter second) → classify first = classify second := by
  refine ⟨fun message => ⟨?_, ?_, ?_, ?_, ?_⟩, ?_, ?_⟩
  · intro hblank
    exact classify_of_not_begins (not_announcesBreaking_of_allBlank hblank)
      fun category => Category.not_begins_of_allBlank hblank
  · exact classify_eq_breaking_iff
  · exact fun category hcategory => classify_eq_word_iff hcategory
  · exact classify_eq_other_iff
  · exact length_rowsApplying_wordRows_le message
  · exact fun rules hrules => forall_classifyBy_eq_iff hrules
  · exact fun first second hsubject hfooter => classify_congr hsubject hfooter

/-- A capital with a dot is a letter in any case, but in lower case it is two characters. -/
example : classify "F\u0130X: a".toList = .other := by decide

example : classify "F\u0130X!: a".toList = .breaking := by decide

end NextRelease
