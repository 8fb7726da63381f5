import NextRelease.Proofs.Settings.Table
import NextRelease.Settings.Load

/-!
# When settings fail to load

A root that is no directory and a bad configuration are meant to be told apart by the code of the
failure. That every failure has one of the two codes is false: octets that are no UTF-8, and a
project file that has some other value for its table of tools, give a failure without any. No other
failure escapes: what is wrong with the document, the section or a key in it is diagnosed. All this
holds for any reader of documents, and nothing is asked of the tables that it gives.
-/

namespace NextRelease

open Text

/-- The stable code of a failure, if it is diagnosed. -/
def Failure.code? (failure : Failure) : Option Code := failure.diagnosis?.map (·.code)

namespace Settings

/-! ## Files -/

/-- The octets spell a document in which the reader finds these entries. -/
def Spells (reader : DocumentReader) (octets : List Nat) (entries : List (Text × Value)) : Prop :=
  ∃ text, decodeUtf8 octets = .ok text ∧ reader (unifyNewlines text) = some entries

variable {reader : DocumentReader} {path : Text} {octets : List Nat}
  {entries : List (Text × Value)} {failure : Failure}

theorem readTable_eq_ok_iff :
    readTable reader path octets = .ok entries ↔ Spells reader octets entries := by
  unfold readTable Spells
  cases hdecode : decodeUtf8 octets with
  | error fault => simp
  | ok text => cases hread : reader (unifyNewlines text) <;> simp [hread]

theorem readTable_eq_error_iff :
    readTable reader path octets = .error failure ↔
      (∃ fault, decodeUtf8 octets = .error fault ∧ failure = .undecodable fault) ∨
        ∃ text, decodeUtf8 octets = .ok text ∧ reader (unifyNewlines text) = none ∧
          failure = .syntaxError path := by
  unfold readTable
  cases hdecode : decodeUtf8 octets with
  | error fault => simp [eq_comm]
  | ok text => cases hread : reader (unifyNewlines text) <;> simp [hread, eq_comm]

/-! ## The section of a project file -/

theorem projectSection_eq_error_iff :
    projectSection entries = .error failure ↔
      (∃ value, entry? "tool".toList entries = some value ∧ value.kind ≠ .table ∧
        failure = .toolsNotTable value.kind) ∨
      ∃ tools value, entry? "tool".toList entries = some (.table tools) ∧
        entry? "versionkit".toList tools = some value ∧ value.kind ≠ .null ∧
          value.kind ≠ .table ∧ failure = .sectionNotTable := by
  unfold projectSection
  -- Which names the tables have is of no account here.
  generalize "tool".toList = toolsKey, "versionkit".toList = sectionKey
  cases htools : entry? toolsKey entries with
  | none => simp
  | some value =>
    cases value with
    | table tools =>
      cases hsection : entry? sectionKey tools with
      | none => simp [hsection, Value.kind]
      | some section_ => cases section_ <;> simp [hsection, Value.kind, eq_comm]
    | _ => simp [Value.kind, eq_comm]

/-! ## Tables -/

/-- Whatever is wrong with a table of settings is diagnosed as a bad configuration. -/
theorem code_of_ofTable (h : ofTable entries = .error failure) :
    failure.code? = some .configInvalid := by
  simp only [ofTable, check_eq_error_iff, bind_eq_error_iff, textEntry_eq_error_iff,
    booleanEntry_eq_error_iff, pure_ne_error, and_false, or_false] at h
  rcases h with ⟨_, rfl⟩ | ⟨_, ⟨_, _, _, rfl⟩ | ⟨_, _, hrest⟩⟩
  · rfl
  · rfl
  rcases hrest with ⟨_, _, _, rfl⟩ | ⟨_, _, ⟨_, _, _, rfl⟩ | ⟨_, _, hrest⟩⟩
  · rfl
  · rfl
  rcases hrest with ⟨_, _, _, rfl⟩ | ⟨_, _, ⟨_, rfl⟩ | ⟨_, _, rfl⟩⟩
  · rfl
  · rfl
  · rfl

/-! ## The source of the settings -/

namespace Repository

/-- The table that holds the settings of a repository, if there is one. -/
def source (repository : Repository) (reader : DocumentReader) :
    Except Failure (Option (List (Text × Value))) :=
  match repository.ownFile, repository.projectFile with
  | some octets, _ => do return some (← readTable reader (repository.filePath ownFileName) octets)
  | none, some octets =>
    readTable reader (repository.filePath projectFileName) octets >>= projectSection
  | none, none => .ok none

/-- The file that is read: one of its own comes before the project file. -/
def file? (repository : Repository) : Option (List Nat) :=
  repository.ownFile.or repository.projectFile

/-- The failures of loading that nobody diagnoses. -/
inductive Escapes (repository : Repository) (reader : DocumentReader) : Failure → Prop
  /-- The file that is read is no UTF-8. -/
  | undecodable {octets : List Nat} {fault : DecodeFault} (hfile : repository.file? = some octets)
    (hfault : decodeUtf8 octets = .error fault) : Escapes repository reader (.undecodable fault)
  /-- The project file is read, and what it has for a table of tools is another value. -/
  | toolsNotTable {octets : List Nat} {entries : List (Text × Value)} {value : Value}
    (hown : repository.ownFile = none) (hproject : repository.projectFile = some octets)
    (hspells : Spells reader octets entries) (htools : entry? "tool".toList entries = some value)
    (hkind : value.kind ≠ .table) : Escapes repository reader (.toolsNotTable value.kind)

variable {repository : Repository}

theorem Escapes.code (h : repository.Escapes reader failure) : failure.code? = none := by
  cases h with
  | undecodable _ _ => rfl
  | toolsNotTable _ _ _ _ _ => rfl

/-- A failure to find the table of settings is diagnosed, or it escapes. -/
theorem source_eq_error (h : repository.source reader = .error failure) :
    failure.code? = some .configInvalid ∨ repository.Escapes reader failure := by
  unfold source at h
  cases hown : repository.ownFile with
  | some octets =>
    simp only [hown, bind_eq_error_iff, readTable_eq_error_iff, pure_ne_error, and_false,
      exists_false, or_false] at h
    rcases h with ⟨fault, hfault, rfl⟩ | ⟨_, _, _, rfl⟩
    · exact .inr (.undecodable (by simp [file?, hown]) hfault)
    · exact .inl rfl
  | none =>
    cases hproject : repository.projectFile with
    | none =>
      simp only [hown, hproject] at h
      cases h
    | some octets =>
      have hfile : repository.file? = some octets := by simp [file?, hown, hproject]
      simp only [hown, hproject, bind_eq_error_iff, readTable_eq_error_iff, readTable_eq_ok_iff,
        projectSection_eq_error_iff] at h
      rcases h with (⟨fault, hfault, rfl⟩ | ⟨_, _, _, rfl⟩) | ⟨entries, hspells, hsection⟩
      · exact .inr (.undecodable hfile hfault)
      · exact .inl rfl
      · rcases hsection with ⟨value, htools, hkind, rfl⟩ | ⟨_, _, _, _, _, _, rfl⟩
        · exact .inr (.toolsNotTable hown hproject hspells htools hkind)
        · exact .inl rfl

/-- What escapes does stop the search for the table of settings. -/
theorem Escapes.source_eq (h : repository.Escapes reader failure) :
    repository.source reader = .error failure := by
  unfold source
  cases h with
  | @undecodable octets fault hfile hfault =>
    have hread (path : Text) : readTable reader path octets = .error (.undecodable fault) :=
      readTable_eq_error_iff.mpr (.inl ⟨fault, hfault, rfl⟩)
    cases hown : repository.ownFile with
    | some found =>
      obtain rfl : found = octets := by simpa [file?, hown] using hfile
      simp only [hread]
      rfl
    | none =>
      have hproject : repository.projectFile = some octets := by simpa [file?, hown] using hfile
      simp only [hproject, hread]
      rfl
  | @toolsNotTable octets entries value hown hproject hspells htools hkind =>
    simp only [hown, hproject]
    exact bind_eq_error_iff.mpr (.inr ⟨entries, readTable_eq_ok_iff.mpr hspells,
      projectSection_eq_error_iff.mpr (.inl ⟨value, htools, hkind, rfl⟩)⟩)

end Repository

/-! ## Loading -/

variable {repository : Repository}

/-- Below a root the settings are those of the table that is found, or else the defaults. -/
theorem loadWith_eq (h : repository.rootExists = true) :
    loadWith reader repository = repository.source reader >>= fun found =>
      match found with
      | some entries => ofTable entries
      | none => .ok {} := by
  simp only [loadWith, Repository.source, h, Bool.not_true, Bool.false_eq_true, if_false]
  cases repository.ownFile with
  | some octets =>
    simp only [bind_assoc, pure_bind]
  | none =>
    cases repository.projectFile with
    | none => rfl
    | some octets =>
      simp only [bind_assoc]
      rfl

theorem loadWith_eq_error_iff :
    loadWith reader repository = .error failure ↔
      repository.rootExists = false ∧ failure = .rootNotDirectory repository.root ∨
      repository.rootExists = true ∧ (repository.source reader = .error failure ∨
        ∃ entries, repository.source reader = .ok (some entries) ∧
          ofTable entries = .error failure) := by
  cases hroot : repository.rootExists with
  | false =>
    simp only [loadWith, hroot, Bool.not_false, check_eq_error_iff, not_true, false_and, or_false,
      true_and, Bool.false_eq_true]
  | true =>
    rw [loadWith_eq hroot, bind_eq_error_iff]
    constructor
    · rintro (hsource | ⟨found, hsource, htable⟩)
      · exact .inr ⟨rfl, .inl hsource⟩
      · cases found with
        | none => cases htable
        | some entries => exact .inr ⟨rfl, .inr ⟨entries, hsource, htable⟩⟩
    · rintro (⟨hmissing, _⟩ | ⟨_, hsource | ⟨entries, hsource, htable⟩⟩)
      · cases hmissing
      · exact .inl hsource
      · exact .inr ⟨some entries, hsource, htable⟩

/-- A failure below a root is diagnosed as a bad configuration, or it escapes. -/
theorem loadWith_eq_error (h : repository.rootExists = true)
    (hload : loadWith reader repository = .error failure) :
    failure.code? = some .configInvalid ∨ repository.Escapes reader failure := by
  rcases loadWith_eq_error_iff.mp hload with ⟨hmissing, _⟩ | ⟨_, hsource | ⟨entries, _, htable⟩⟩
  · rw [h] at hmissing
    cases hmissing
  · exact Repository.source_eq_error hsource
  · exact .inl (code_of_ofTable htable)

/-- A root that is no directory is reported, and nothing else is reported as one. -/
theorem loadWith_eq_rootNotDirectory_iff :
    loadWith reader repository = .error (.rootNotDirectory repository.root) ↔
      repository.rootExists = false := by
  constructor
  · intro hload
    rw [← Bool.not_eq_true]
    intro hroot
    cases loadWith_eq_error hroot hload with
    | inl hcode => cases hcode
    | inr hescapes => cases hescapes
  · intro hroot
    exact loadWith_eq_error_iff.mpr (.inl ⟨hroot, rfl⟩)

/--
Whatever the reader finds in a document, loading reports a root that is no directory exactly if it
is none, every code tells of the root or else of the configuration, and the failures without any
code are those that escape.
-/
theorem loadWith_undiagnosed_iff (reader : DocumentReader) (repository : Repository) :
    (loadWith reader repository = .error (.rootNotDirectory repository.root) ↔
        repository.rootExists = false) ∧
      (∀ failure code, loadWith reader repository = .error failure → failure.code? = some code →
        code = if repository.rootExists then .configInvalid else .configNotFound) ∧
      ∀ failure, loadWith reader repository = .error failure ∧ failure.code? = none ↔
        repository.rootExists = true ∧ repository.Escapes reader failure := by
  refine ⟨loadWith_eq_rootNotDirectory_iff, ?_, ?_⟩
  · intro failure code hload hcode
    cases hroot : repository.rootExists with
    | false =>
      rw [loadWith_eq_rootNotDirectory_iff.mpr hroot] at hload
      cases hload
      exact (Option.some.inj hcode).symm
    | true =>
      cases loadWith_eq_error hroot hload with
      | inl hinvalid => exact Option.some.inj (hcode.symm.trans hinvalid)
      | inr hescapes => cases hescapes.code.symm.trans hcode
  · intro failure
    constructor
    · rintro ⟨hload, hcode⟩
      rcases loadWith_eq_error_iff.mp hload with ⟨_, rfl⟩ | ⟨hroot, _⟩
      · cases hcode
      · cases loadWith_eq_error hroot hload with
        | inl hinvalid => cases hcode.symm.trans hinvalid
        | inr hescapes => exact ⟨hroot, hescapes⟩
    · rintro ⟨hroot, hescapes⟩
      exact ⟨loadWith_eq_error_iff.mpr (.inr ⟨hroot, .inl hescapes.source_eq⟩), hescapes.code⟩

/-- A root directory that holds one file. -/
def directoryWith (name : Text) (octets : List Nat) : Repository :=
  .ofTree (.ofPaths "<root>".toList [([name], octets)] []) []

/-- A document with a number for the table of tools, in octets. -/
def toolsNumber : List Nat := "tool = 1\n".toList.map Char.toNat

/--
A number for the table of tools gives no code with any reader that finds it, as that of TOML does.
Nor does an octet that begins no character, with any reader at all.
-/
theorem toolsNumber_undiagnosed :
    ((directoryWith projectFileName toolsNumber).rootExists = true ∧
      (∀ reader, reader "tool = 1\n".toList = some [("tool".toList, .integer 1)] →
        loadWith reader (directoryWith projectFileName toolsNumber) =
          .error (.toolsNotTable .integer)) ∧
      load (directoryWith projectFileName toolsNumber) = .error (.toolsNotTable .integer) ∧
      (Failure.toolsNotTable .integer).code? = none) ∧
    (directoryWith ownFileName [0xFF]).rootExists = true ∧
      (∀ reader, loadWith reader (directoryWith ownFileName [0xFF]) =
        .error (.undecodable ⟨.invalidStart, 0, [0xFF]⟩)) ∧
      (Failure.undecodable ⟨.invalidStart, 0, [0xFF]⟩).code? = none := by
  constructor
  · have hroot : (directoryWith projectFileName toolsNumber).rootExists = true := by decide
    have hown : (directoryWith projectFileName toolsNumber).ownFile = none := by decide
    have hproject : (directoryWith projectFileName toolsNumber).projectFile = some toolsNumber := by
      decide
    have htext : decodeUtf8 toolsNumber = .ok "tool = 1\n".toList := by rfl
    have hload (reader : DocumentReader)
        (hread : reader "tool = 1\n".toList = some [("tool".toList, .integer 1)]) :
        loadWith reader (directoryWith projectFileName toolsNumber) =
          .error (.toolsNotTable .integer) := by
      have hescapes :=
        Repository.Escapes.toolsNotTable hown hproject ⟨_, htext, hread⟩ rfl nofun
      exact loadWith_eq_error_iff.mpr (.inr ⟨hroot, .inl hescapes.source_eq⟩)
    exact ⟨hroot, hload, hload Toml.parse? (by decide +kernel), rfl⟩
  · have hroot : (directoryWith ownFileName [0xFF]).rootExists = true := by decide
    have hfile : (directoryWith ownFileName [0xFF]).file? = some [0xFF] := by decide
    have hfault : decodeUtf8 [0xFF] = .error ⟨.invalidStart, 0, [0xFF]⟩ := rfl
    refine ⟨hroot, fun reader => ?_, rfl⟩
    have hescapes : (directoryWith ownFileName [0xFF]).Escapes reader _ := .undecodable hfile hfault
    exact loadWith_eq_error_iff.mpr (.inr ⟨hroot, .inl hescapes.source_eq⟩)

end Settings

end NextRelease
