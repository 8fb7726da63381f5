import NextRelease.Proofs.Failure
import NextRelease.Settings.Basic

/-!
# Tables of settings

A table is accepted exactly if it has no key without a meaning, every entry has the kind that its
key asks for, the default branch is not blank and the notes title has a place for the version. What
the settings then hold is what the entries hold, and the defaults for absent keys.
-/

namespace NextRelease.Settings

open Text

variable {entries : List (Text × Value)} {key : Text}

/-- No key is unknown exactly if every key means something. -/
theorem unknownKeys_eq_nil_iff :
    unknownKeys entries = [] ↔ ∀ key ∈ entries.map (·.1), key ∈ settingKeys := by
  have hperm := sortBy_perm precedes ((entries.map (·.1)).filter (!settingKeys.contains ·))
  have hnil : unknownKeys entries = [] ↔
      (entries.map (·.1)).filter (!settingKeys.contains ·) = [] := by
    rw [unknownKeys, ← List.length_eq_zero_iff, hperm.length_eq, List.length_eq_zero_iff]
  rw [hnil, List.filter_eq_nil_iff]
  simp

/-- An entry gives a text if it holds this text, or if there is none and the default is this. -/
theorem textEntry_eq_ok_iff {absent content : Text} :
    textEntry entries key absent = .ok content ↔
      entry? key entries = some (.text content) ∨ entry? key entries = none ∧ content = absent := by
  unfold textEntry
  cases hentry : entry? key entries with
  | none => simp [eq_comm]
  | some value => cases value <;> simp

theorem booleanEntry_eq_ok_iff {absent truth : Bool} :
    booleanEntry entries key absent = .ok truth ↔
      entry? key entries = some (.boolean truth) ∨ entry? key entries = none ∧ truth = absent := by
  unfold booleanEntry
  cases hentry : entry? key entries with
  | none => simp [eq_comm]
  | some value => cases value <;> simp

/-- What stands under a key is the text that the entry gives. -/
theorem eq_of_textEntry_eq_ok {absent content : Text} {value : Value}
    (h : textEntry entries key absent = .ok content) (hentry : entry? key entries = some value) :
    value = .text content := by
  rcases textEntry_eq_ok_iff.mp h with hfound | ⟨hnone, _⟩
  · exact Option.some.inj (hentry.symm.trans hfound)
  · cases hnone.symm.trans hentry

theorem eq_of_booleanEntry_eq_ok {absent truth : Bool} {value : Value}
    (h : booleanEntry entries key absent = .ok truth) (hentry : entry? key entries = some value) :
    value = .boolean truth := by
  rcases booleanEntry_eq_ok_iff.mp h with hfound | ⟨hnone, _⟩
  · exact Option.some.inj (hentry.symm.trans hfound)
  · cases hnone.symm.trans hentry

theorem textEntry_eq_error_iff {absent : Text} {failure : Failure} :
    textEntry entries key absent = .error failure ↔
      ∃ value, entry? key entries = some value ∧ value.kind ≠ .text ∧
        failure = .notText key value.kind := by
  unfold textEntry
  cases hentry : entry? key entries with
  | none => simp
  | some value => cases value <;> simp [Value.kind, eq_comm]

theorem booleanEntry_eq_error_iff {absent : Bool} {failure : Failure} :
    booleanEntry entries key absent = .error failure ↔
      ∃ value, entry? key entries = some value ∧ value.kind ≠ .boolean ∧
        failure = .notBoolean key value.kind := by
  unfold booleanEntry
  cases hentry : entry? key entries with
  | none => simp
  | some value => cases value <;> simp [Value.kind, eq_comm]

/-- The settings of a table, and when it is accepted. -/
theorem ofTable_eq_ok_iff {settings : Settings} :
    ofTable entries = .ok settings ↔
      unknownKeys entries = [] ∧
        textEntry entries "default_branch".toList "main".toList = .ok settings.defaultBranch ∧
        textEntry entries "tag_prefix".toList "v".toList = .ok settings.tagPrefix ∧
        textEntry entries "notes_title".toList Notes.defaultTitle = .ok settings.notesTitle ∧
        booleanEntry entries "section_emoji".toList false = .ok settings.sectionEmoji ∧
        allBlank settings.defaultBranch = false ∧
        occursIn placeholder settings.notesTitle = true := by
  simp only [ofTable, check_eq_ok_iff, bind_eq_ok_iff, pure_eq_ok_iff, ne_eq, not_not,
    Bool.not_eq_true, Bool.not_eq_true', Bool.not_eq_false]
  constructor
  · rintro ⟨hkeys, _, hbranch, _, hstart, _, htitle, _, hemoji, hblank, hplace, rfl⟩
    exact ⟨hkeys, hbranch, hstart, htitle, hemoji, hblank, hplace⟩
  · rintro ⟨hkeys, hbranch, hstart, htitle, hemoji, hblank, hplace⟩
    exact ⟨hkeys, _, hbranch, _, hstart, _, htitle, _, hemoji, hblank, hplace, rfl⟩

/-- The default branch of an accepted table is taken over as it stands, blanks at its edges too. -/
theorem defaultBranch_of_ofTable {settings : Settings} {branch : Text}
    (h : ofTable entries = .ok settings)
    (hentry : entry? "default_branch".toList entries = some (.text branch)) :
    settings.defaultBranch = branch ∧ allBlank branch = false := by
  obtain ⟨_, hbranch, _, _, _, hblank, _⟩ := ofTable_eq_ok_iff.mp h
  obtain rfl : branch = settings.defaultBranch :=
    Value.text.inj (eq_of_textEntry_eq_ok hbranch hentry)
  exact ⟨rfl, hblank⟩

/-- Every text is accepted as the prefix of tags. -/
theorem ofTable_tagPrefix (tagPrefix : Text) :
    ofTable [("tag_prefix".toList, .text tagPrefix)] = .ok { tagPrefix } :=
  ofTable_eq_ok_iff.mpr ⟨rfl, rfl, rfl, rfl, rfl, rfl, rfl⟩

end NextRelease.Settings
