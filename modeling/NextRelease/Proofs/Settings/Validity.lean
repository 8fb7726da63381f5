import NextRelease.Proofs.Settings.Load
import NextRelease.Proofs.Settings.Mapping
import NextRelease.Proofs.Text.Caseless

/-!
# Which tables are settings

The conditions on a table of settings stand in an order, and a table is refused for the first one
that it breaks, however many others it breaks as well. The conditions further down ask for the text
of an entry, and they are only reached when the entry is a text. A table that breaks none is
accepted; what the settings then hold is what its entries hold and, for the keys it leaves out, what
the default settings hold. A table of these entries is accepted again and gives the same settings.
-/

namespace NextRelease.Settings

open Text

/-! ## The conditions -/

/-- What is asked of a table of settings. -/
inductive Condition
  /-- Every key means something. -/
  | keysKnown
  /-- An entry under the key is a text. -/
  | holdsText (key : Text)
  /-- An entry under the key is a truth value. -/
  | holdsTruth (key : Text)
  | branchNotBlank
  | titleTakesVersion

/-- The conditions in the order in which a table is checked against them. -/
def Condition.all : List Condition := [
  .keysKnown,
  .holdsText "default_branch".toList,
  .holdsText "tag_prefix".toList,
  .holdsText "notes_title".toList,
  .holdsTruth "section_emoji".toList,
  .branchNotBlank,
  .titleTakesVersion]

/-- The table breaks the condition, and the failure says how. -/
inductive Breaks (entries : List (Text × Value)) : Condition → Failure → Prop
  /-- Some keys mean nothing: the failure lists all of them in code point order. -/
  | unknownKeys {keys : List Text} (hsome : keys ≠ [])
    (hlists : keys.Perm ((entries.map (·.1)).filter (· ∉ settingKeys)))
    (hsorted : keys.Pairwise (precedes · ·)) : Breaks entries .keysKnown (.unknownKeys keys)
  | notText {key : Text} {value : Value} (hentry : entry? key entries = some value)
    (hkind : value.kind ≠ .text) : Breaks entries (.holdsText key) (.notText key value.kind)
  | notBoolean {key : Text} {value : Value} (hentry : entry? key entries = some value)
    (hkind : value.kind ≠ .boolean) : Breaks entries (.holdsTruth key) (.notBoolean key value.kind)
  | blankBranch {branch : Text}
    (hentry : entry? "default_branch".toList entries = some (.text branch))
    (hblank : allBlank branch = true) : Breaks entries .branchNotBlank .blankDefaultBranch
  | noPlaceholder {title : Text} (hentry : entry? "notes_title".toList entries = some (.text title))
    (hplace : ¬placeholder <:+: title) : Breaks entries .titleTakesVersion .missingPlaceholder

/-- The failure is that of the first of the conditions that the table breaks. -/
def FirstBroken (entries : List (Text × Value)) : List Condition → Failure → Prop
  | [], _ => False
  | condition :: rest, failure =>
    Breaks entries condition failure ∨
      (∀ other, ¬Breaks entries condition other) ∧ FirstBroken entries rest failure

/-- A table of settings as it should be. -/
structure IsValid (entries : List (Text × Value)) : Prop where
  keys_known : ∀ key ∈ entries.map (·.1), key ∈ settingKeys
  branch : ∀ value, entry? "default_branch".toList entries = some value →
    ∃ branch, value = .text branch ∧ allBlank branch = false
  tagPrefix : ∀ value, entry? "tag_prefix".toList entries = some value →
    ∃ start, value = .text start
  title : ∀ value, entry? "notes_title".toList entries = some value →
    ∃ title, value = .text title ∧ placeholder <:+: title
  emoji : ∀ value, entry? "section_emoji".toList entries = some value →
    ∃ truth, value = .boolean truth

variable {entries : List (Text × Value)} {failure : Failure}

theorem firstBroken_iff {conditions : List Condition} :
    FirstBroken entries conditions failure ↔
      ∃ before condition after, conditions = before ++ condition :: after ∧
        Breaks entries condition failure ∧
          ∀ earlier ∈ before, ∀ other, ¬Breaks entries earlier other := by
  constructor
  · intro h
    induction conditions with
    | nil => exact h.elim
    | cons first rest ih =>
      rcases h with hbreaks | ⟨hkept, hrest⟩
      · exact ⟨[], first, rest, rfl, hbreaks, nofun⟩
      · obtain ⟨before, condition, after, rfl, hbreaks, hbefore⟩ := ih hrest
        refine ⟨first :: before, condition, after, rfl, hbreaks, fun earlier hearlier => ?_⟩
        rcases List.mem_cons.mp hearlier with rfl | hmem
        · exact hkept
        · exact hbefore earlier hmem
  · rintro ⟨before, condition, after, rfl, hbreaks, hbefore⟩
    induction before with
    | nil => exact .inl hbreaks
    | cons first before ih =>
      exact .inr ⟨hbefore first List.mem_cons_self,
        ih fun earlier hearlier => hbefore earlier (List.mem_cons_of_mem first hearlier)⟩

/-! ## One check -/

theorem breaks_keysKnown_iff :
    Breaks entries .keysKnown failure ↔
      unknownKeys entries ≠ [] ∧ failure = .unknownKeys (unknownKeys entries) := by
  have hlisted : (entries.map (·.1)).filter (!settingKeys.contains ·) =
      (entries.map (·.1)).filter (· ∉ settingKeys) := by simp
  rw [unknownKeys, hlisted]
  constructor
  · intro h
    cases h with
    | unknownKeys hsome hlists hsorted =>
      rw [← eq_sortBy_precedes_iff.mpr ⟨hlists, hsorted⟩]
      exact ⟨hsome, rfl⟩
  · rintro ⟨hsome, rfl⟩
    obtain ⟨hlists, hsorted⟩ := eq_sortBy_precedes_iff.mp rfl
    exact .unknownKeys hsome hlists hsorted

theorem breaks_holdsText_iff {key absent : Text} :
    Breaks entries (.holdsText key) failure ↔ textEntry entries key absent = .error failure := by
  rw [textEntry_eq_error_iff]
  constructor
  · intro h
    cases h with
    | notText hentry hkind => exact ⟨_, hentry, hkind, rfl⟩
  · rintro ⟨value, hentry, hkind, rfl⟩
    exact .notText hentry hkind

theorem breaks_holdsTruth_iff {key : Text} {absent : Bool} :
    Breaks entries (.holdsTruth key) failure ↔
      booleanEntry entries key absent = .error failure := by
  rw [booleanEntry_eq_error_iff]
  constructor
  · intro h
    cases h with
    | notBoolean hentry hkind => exact ⟨_, hentry, hkind, rfl⟩
  · rintro ⟨value, hentry, hkind, rfl⟩
    exact .notBoolean hentry hkind

/-- A fault of a text that is read, which the default does not have, is that of an entry. -/
theorem faulty_entry_iff {key absent content : Text} {faulty : Text → Prop}
    (h : textEntry entries key absent = .ok content) (habsent : ¬faulty absent) :
    (∃ text, entry? key entries = some (.text text) ∧ faulty text) ↔ faulty content := by
  rcases textEntry_eq_ok_iff.mp h with hfound | ⟨hnone, rfl⟩
  · simp [hfound]
  · simp [hnone, habsent]

theorem breaks_branchNotBlank_iff {branch : Text}
    (h : textEntry entries "default_branch".toList "main".toList = .ok branch) :
    Breaks entries .branchNotBlank failure ↔
      allBlank branch = true ∧ failure = .blankDefaultBranch := by
  have hstands : (∃ text, entry? "default_branch".toList entries = some (.text text) ∧
      allBlank text = true) ↔ allBlank branch = true := faulty_entry_iff h (by decide)
  rw [← hstands]
  constructor
  · intro hbreaks
    cases hbreaks with
    | blankBranch hfound hblank => exact ⟨⟨_, hfound, hblank⟩, rfl⟩
  · rintro ⟨⟨_, hfound, hblank⟩, rfl⟩
    exact .blankBranch hfound hblank

theorem breaks_titleTakesVersion_iff {title : Text}
    (h : textEntry entries "notes_title".toList Notes.defaultTitle = .ok title) :
    Breaks entries .titleTakesVersion failure ↔
      (!occursIn placeholder title) = true ∧ failure = .missingPlaceholder := by
  have hdefault : placeholder <:+: Notes.defaultTitle := (List.suffix_append _ _).isInfix
  have hstands : (∃ text, entry? "notes_title".toList entries = some (.text text) ∧
      ¬placeholder <:+: text) ↔ ¬placeholder <:+: title :=
    faulty_entry_iff h (not_not_intro hdefault)
  rw [Bool.not_eq_true', ← Bool.not_eq_true, occursIn_iff, ← hstands]
  constructor
  · intro hbreaks
    cases hbreaks with
    | noPlaceholder hfound hplace => exact ⟨⟨_, hfound, hplace⟩, rfl⟩
  · rintro ⟨⟨_, hfound, hplace⟩, rfl⟩
    exact .noPlaceholder hfound hplace

/-! ## All checks in their order -/

/-- An entry is read, and the table fails here or in what follows. -/
theorem bind_eq_error_iff_firstBroken {α β : Type} {first : Except Failure α}
    {next : α → Except Failure β} {condition : Condition} {rest : List Condition}
    (hfirst : ∀ other, Breaks entries condition other ↔ first = .error other)
    (hnext : ∀ found, first = .ok found →
      (next found = .error failure ↔ FirstBroken entries rest failure)) :
    (first >>= next) = .error failure ↔ FirstBroken entries (condition :: rest) failure := by
  simp only [FirstBroken, hfirst, bind_eq_error_iff]
  cases first with
  | error found => simp
  | ok found => simp [hnext found rfl]

/-- Something is refused, or the table fails in what follows. -/
theorem check_eq_error_iff_firstBroken {α β : Type} {refused : Prop} [Decidable refused]
    {cause : Failure} {next : α → Except Failure β} {steps : Except Failure β}
    {condition : Condition} {rest : List Condition}
    (hrefused : ∀ other, Breaks entries condition other ↔ refused ∧ other = cause)
    (hsteps : steps = .error failure ↔ FirstBroken entries rest failure) :
    (if refused then throw cause >>= next else steps) = .error failure ↔
      FirstBroken entries (condition :: rest) failure := by
  rw [check_eq_error_iff, hsteps, FirstBroken, hrefused]
  simp [hrefused]

/-- A table is refused for the first condition that it breaks. -/
theorem ofTable_eq_error_iff :
    ofTable entries = .error failure ↔ FirstBroken entries Condition.all failure := by
  unfold ofTable Condition.all
  refine check_eq_error_iff_firstBroken (fun _ => breaks_keysKnown_iff) ?_
  refine bind_eq_error_iff_firstBroken (fun _ => breaks_holdsText_iff) fun branch hbranch => ?_
  refine bind_eq_error_iff_firstBroken (fun _ => breaks_holdsText_iff) fun start _ => ?_
  refine bind_eq_error_iff_firstBroken (fun _ => breaks_holdsText_iff) fun title htitle => ?_
  refine bind_eq_error_iff_firstBroken (fun _ => breaks_holdsTruth_iff) fun emoji _ => ?_
  refine check_eq_error_iff_firstBroken (fun _ => breaks_branchNotBlank_iff hbranch) ?_
  refine check_eq_error_iff_firstBroken (fun _ => breaks_titleTakesVersion_iff htitle) ?_
  exact ⟨fun h => absurd h pure_ne_error, False.elim⟩

/-! ## Valid tables -/

theorem IsValid.not_breaks (h : IsValid entries) {condition : Condition}
    (hmem : condition ∈ Condition.all) : ¬Breaks entries condition failure := by
  intro hbreaks
  cases hbreaks with
  | unknownKeys hsome hlists _ =>
    obtain ⟨key, hkey⟩ := List.exists_mem_of_ne_nil _ hsome
    obtain ⟨hlisted, hunknown⟩ := List.mem_filter.mp (hlists.mem_iff.mp hkey)
    exact of_decide_eq_true hunknown (h.keys_known key hlisted)
  | notText hentry hkind =>
    simp only [Condition.all, List.mem_cons, Condition.holdsText.injEq, List.not_mem_nil,
      reduceCtorEq, false_or, or_false] at hmem
    rcases hmem with rfl | rfl | rfl
    · obtain ⟨_, rfl, _⟩ := h.branch _ hentry
      exact hkind rfl
    · obtain ⟨_, rfl⟩ := h.tagPrefix _ hentry
      exact hkind rfl
    · obtain ⟨_, rfl, _⟩ := h.title _ hentry
      exact hkind rfl
  | notBoolean hentry hkind =>
    simp only [Condition.all, List.mem_cons, Condition.holdsTruth.injEq, List.not_mem_nil,
      reduceCtorEq, false_or, or_false] at hmem
    subst hmem
    obtain ⟨_, rfl⟩ := h.emoji _ hentry
    exact hkind rfl
  | blankBranch hentry hblank =>
    obtain ⟨_, heq, hunblank⟩ := h.branch _ hentry
    cases heq
    cases hblank.symm.trans hunblank
  | noPlaceholder hentry hplace =>
    obtain ⟨_, heq, hfound⟩ := h.title _ hentry
    cases heq
    exact hplace hfound

variable {settings : Settings}

/-- Only valid tables are accepted. -/
theorem isValid_of_ofTable (h : ofTable entries = .ok settings) : IsValid entries := by
  obtain ⟨hkeys, hbranch, hstart, htitle, hemoji, hblank, hplace⟩ := ofTable_eq_ok_iff.mp h
  refine ⟨unknownKeys_eq_nil_iff.mp hkeys, ?_, ?_, ?_, ?_⟩
  · exact fun value hentry => ⟨_, eq_of_textEntry_eq_ok hbranch hentry, hblank⟩
  · exact fun value hentry => ⟨_, eq_of_textEntry_eq_ok hstart hentry⟩
  · exact fun value hentry =>
      ⟨_, eq_of_textEntry_eq_ok htitle hentry, occursIn_iff.mp hplace⟩
  · exact fun value hentry => ⟨_, eq_of_booleanEntry_eq_ok hemoji hentry⟩

theorem exists_ofTable_iff : (∃ settings, ofTable entries = .ok settings) ↔ IsValid entries := by
  constructor
  · rintro ⟨settings, h⟩
    exact isValid_of_ofTable h
  · intro h
    cases htable : ofTable entries with
    | ok settings => exact ⟨settings, rfl⟩
    | error failure =>
      obtain ⟨before, condition, after, hall, hbreaks, _⟩ :=
        firstBroken_iff.mp (ofTable_eq_error_iff.mp htable)
      have hmem : condition ∈ Condition.all := by simp [hall]
      exact absurd hbreaks (h.not_breaks hmem)

/-! ## What the settings hold -/

theorem holds_of_textEntry {key absent content : Text} {value : Value}
    (h : textEntry entries key absent = .ok content) :
    some (.text content) = some value ↔ entry? key entries = some value ∨
      entry? key entries = none ∧ some (.text absent) = some value := by
  rcases textEntry_eq_ok_iff.mp h with hfound | ⟨hnone, rfl⟩
  · simp [hfound]
  · simp [hnone]

theorem holds_of_booleanEntry {key : Text} {absent truth : Bool} {value : Value}
    (h : booleanEntry entries key absent = .ok truth) :
    some (.boolean truth) = some value ↔ entry? key entries = some value ∨
      entry? key entries = none ∧ some (.boolean absent) = some value := by
  rcases booleanEntry_eq_ok_iff.mp h with hfound | ⟨hnone, rfl⟩
  · simp [hfound]
  · simp [hnone]

theorem lookup_eq_none_of_unknown (h : unknownKeys entries = []) {key : Text}
    (hkey : key ∉ settingKeys) : entry? key entries = none := by
  by_contra hentry
  exact hkey (unknownKeys_eq_nil_iff.mp h key (mem_keys_iff.mpr hentry))

/-- Settings hold every entry of their table as it is, and the default for what it leaves out. -/
theorem holds_toTable_of_ofTable (h : ofTable entries = .ok settings) (key : Text) (value : Value) :
    entry? key settings.toTable = some value ↔ entry? key entries = some value ∨
      entry? key entries = none ∧ entry? key ({} : Settings).toTable = some value := by
  obtain ⟨hkeys, hbranch, hstart, htitle, hemoji, _, _⟩ := ofTable_eq_ok_iff.mp h
  by_cases hkey : key ∈ settingKeys
  · simp only [settingKeys, List.mem_cons, List.not_mem_nil, or_false] at hkey
    rcases hkey with rfl | rfl | rfl | rfl
    · exact holds_of_textEntry hbranch
    · exact holds_of_textEntry htitle
    · exact holds_of_booleanEntry hemoji
    · exact holds_of_textEntry hstart
  · have htable (settings : Settings) : entry? key settings.toTable = none :=
      lookup_eq_none_of_unknown rfl hkey
    rw [htable, htable, lookup_eq_none_of_unknown hkeys hkey]
    simp

/-- The table of accepted settings is accepted and gives them back. -/
theorem ofTable_toTable (h : ofTable entries = .ok settings) :
    ofTable settings.toTable = .ok settings := by
  obtain ⟨_, _, _, _, _, hblank, hplace⟩ := ofTable_eq_ok_iff.mp h
  exact ofTable_eq_ok_iff.mpr ⟨rfl, rfl, rfl, rfl, rfl, hblank, hplace⟩

/--
A table of settings is accepted exactly if it is valid. The settings hold its entries as they are
and defaults for the keys that it leaves out, and the table of these settings gives them back. Every
other table is refused as a bad configuration, for the first condition that it breaks. The order of
the entries does not matter if no two of them have the same key.
-/
theorem ofTable_accepts_valid (entries : List (Text × Value)) :
    ((∃ settings, ofTable entries = .ok settings) ↔ IsValid entries) ∧
      (∀ settings, ofTable entries = .ok settings →
        (∀ key value, entry? key settings.toTable = some value ↔ entry? key entries = some value ∨
          entry? key entries = none ∧ entry? key ({} : Settings).toTable = some value) ∧
        ofTable settings.toTable = .ok settings) ∧
      (∀ failure, ofTable entries = .error failure ↔
        ∃ before condition after, Condition.all = before ++ condition :: after ∧
          Breaks entries condition failure ∧
            ∀ earlier ∈ before, ∀ other, ¬Breaks entries earlier other) ∧
      (∀ failure, ofTable entries = .error failure → failure.code? = some .configInvalid) ∧
      (HasDistinctKeys entries →
        ∀ other, other.Perm entries → ofTable other = ofTable entries) := by
  refine ⟨exists_ofTable_iff, fun settings h => ?_, fun failure => ?_, fun _ => code_of_ofTable, ?_⟩
  · exact ⟨holds_toTable_of_ofTable h, ofTable_toTable h⟩
  · rw [ofTable_eq_error_iff, firstBroken_iff]
  · intro hdistinct other hperm
    have hother : HasDistinctKeys other := (hperm.map _).nodup_iff.mpr hdistinct
    exact ofTable_congr hother hdistinct (sameTable_of_perm hother hperm)

/-- A table that breaks every condition but one. -/
def manyFaults : List (Text × Value) := [
  ("version".toList, .null),
  ("section_emoji".toList, .integer 1),
  ("notes_title".toList, .text "Release".toList),
  ("default_branch".toList, .text [' ']),
  ("tag_prefix".toList, .array []),
  ("branch".toList, .text "main".toList)]

theorem manyFaults_refused :
    HasDistinctKeys manyFaults ∧ ¬IsValid manyFaults ∧
      ofTable manyFaults = .error (.unknownKeys ["branch".toList, "version".toList]) ∧
      ofTable manyFaults.reverse = .error (.unknownKeys ["branch".toList, "version".toList]) := by
  obtain ⟨hvalid, _, hrefused, _, horder⟩ := ofTable_accepts_valid manyFaults
  have hdistinct : HasDistinctKeys manyFaults := by
    unfold HasDistinctKeys
    decide
  have hkeys : ["branch".toList, "version".toList].Perm
      ((manyFaults.map (·.1)).filter (· ∉ settingKeys)) := by decide
  have hbreaks : Breaks manyFaults .keysKnown (.unknownKeys ["branch".toList, "version".toList]) :=
    .unknownKeys (by decide) hkeys (by decide)
  have herror := (hrefused _).mpr ⟨[], .keysKnown, _, rfl, hbreaks, nofun⟩
  refine ⟨hdistinct, fun h => ?_, herror, ?_⟩
  · obtain ⟨settings, hsettings⟩ := hvalid.mpr h
    cases herror.symm.trans hsettings
  · rw [horder hdistinct _ (List.reverse_perm manyFaults), herror]

end NextRelease.Settings
