import NextRelease.Proofs.Settings.Load
import NextRelease.Proofs.Settings.Mapping
import NextRelease.Proofs.Toml.Document

/-!
# Where settings come from

Which file the settings come from is decided by precedence and by nothing else. Beside a file of its
own the project file is not looked at, so that no second file tree can tell them apart. Without one
the section of the project file counts as if it stood in a file of its own, down to the failure that
its entries give, and nothing outside the section does. The defaults hold if there is no section.
All this holds for every reader of documents that gives mappings, as that of TOML does.
-/

namespace NextRelease

open Text

namespace FileTree

/-- No file stands where a directory is. -/
def IsProper (tree : FileTree) : Prop := ∀ file ∈ tree.files, tree.hasDirectory file.1 = false

variable {tree : FileTree} {path : Path}

/-- A directory is no file, whatever its name. -/
theorem octets?_eq_none_of_isDirectory (h : tree.IsProper) (hdirectory : tree.isDirectory path) :
    tree.octets? path = none := by
  obtain ⟨_, hlocation⟩ := Bool.and_eq_true_iff.mp hdirectory
  have hfile : tree.files.lookup path.location = none := by
    rw [Option.eq_none_iff_forall_ne_some]
    intro octets hoctets
    cases (h _ (mem_of_lookup_eq_some hoctets)).symm.trans hlocation
  rw [octets?, hfile, ite_self]

end FileTree

namespace Settings

variable {reader : DocumentReader} {octets : List Nat} {entries section_ : List (Text × Value)}

/-- The file at a path spells a document in which the reader finds these entries. -/
def HoldsDocument (reader : DocumentReader) (tree : FileTree) (path : Path)
    (entries : List (Text × Value)) : Prop :=
  ∃ octets, tree.octets? path = some octets ∧ Spells reader octets entries

/-- Every table that the reader gives is a mapping, and so are the tables in it. -/
def GivesMappings (reader : DocumentReader) : Prop :=
  ∀ text entries, reader text = some entries → (Value.table entries).IsKeyed

theorem givesMappings_parse? : GivesMappings Toml.parse? := fun _ _ h => Toml.isKeyed_of_parse? h

theorem Spells.isKeyed (h : Spells reader octets entries) (hreader : GivesMappings reader) :
    (Value.table entries).IsKeyed := by
  obtain ⟨text, _, hread⟩ := h
  exact hreader _ _ hread

/-! ## The section of a project file -/

/-- The tools of a project are a table, if there are any. -/
def HasToolTable (entries : List (Text × Value)) : Prop :=
  ∀ value, entry? "tool".toList entries = some value → value.kind = .table

/-- What stands in the place of the section, if the tools of the project are a table. -/
def toolSection? (entries : List (Text × Value)) : Option Value :=
  match entry? "tool".toList entries with
  | some (.table tools) => entry? "versionkit".toList tools
  | _ => none

theorem toolSection?_eq_some_iff {value : Value} :
    toolSection? entries = some value ↔
      ∃ tools, entry? "tool".toList entries = some (.table tools) ∧
        entry? "versionkit".toList tools = some value := by
  unfold toolSection?
  split
  · next tools htools =>
    constructor
    · intro h
      exact ⟨tools, htools, h⟩
    · rintro ⟨found, hfound, h⟩
      cases htools.symm.trans hfound
      exact h
  · next hother =>
    refine iff_of_false nofun ?_
    rintro ⟨tools, htools, _⟩
    exact hother tools htools

theorem projectSection_eq_none (htool : HasToolTable entries) (h : toolSection? entries = none) :
    projectSection entries = .ok none := by
  unfold projectSection
  cases hentry : entry? "tool".toList entries with
  | none => rfl
  | some value =>
    cases value with
    | table tools =>
      have hsection : entry? "versionkit".toList tools = none := by
        simpa only [toolSection?, hentry] using h
      simp only [hsection]
    | _ => cases htool _ hentry

theorem projectSection_eq_table (h : toolSection? entries = some (.table section_)) :
    projectSection entries = .ok (some section_) := by
  obtain ⟨tools, htools, hsection⟩ := toolSection?_eq_some_iff.mp h
  simp only [projectSection, htools, hsection]

theorem hasDistinctKeys_section (hentries : (Value.table entries).IsKeyed)
    (h : toolSection? entries = some (.table section_)) : HasDistinctKeys section_ := by
  obtain ⟨tools, htools, hsection⟩ := toolSection?_eq_some_iff.mp h
  exact ((hentries.of_lookup htools).of_lookup hsection).distinct

/-! ## One repository -/

variable {repository : Repository}

/-- A file of its own that is a document settles the outcome. -/
theorem loadWith_eq_of_ownFile (hroot : repository.rootExists = true)
    (hown : repository.ownFile = some octets) (h : Spells reader octets entries) :
    loadWith reader repository = ofTable entries := by
  rw [loadWith_eq hroot, Repository.source, hown]
  simp only [readTable_eq_ok_iff.mpr h]
  rfl

/-- Without a file of its own, a project file that is a document leaves it to its section. -/
theorem loadWith_eq_of_projectFile (hroot : repository.rootExists = true)
    (hown : repository.ownFile = none) (hproject : repository.projectFile = some octets)
    (h : Spells reader octets entries) {found : Option (List (Text × Value))}
    (hsection : projectSection entries = .ok found) :
    loadWith reader repository = found.elim (.ok {}) ofTable := by
  rw [loadWith_eq hroot, Repository.source, hown, hproject]
  simp only [readTable_eq_ok_iff.mpr h]
  change (projectSection entries >>= _) = _
  rw [hsection]
  cases found <;> rfl

theorem loadWith_eq_of_noFile (hroot : repository.rootExists = true)
    (hown : repository.ownFile = none) (hproject : repository.projectFile = none) :
    loadWith reader repository = .ok {} := by
  rw [loadWith_eq hroot, Repository.source, hown, hproject]
  rfl

/-! ## Two repositories -/

/-- Repositories that agree in the root and a file of its own load alike. -/
theorem loadWith_congr {first second : Repository} (hroot : first.root = second.root)
    (hexists : first.rootExists = second.rootExists) (hown : first.ownFile = second.ownFile)
    (h : first.ownFile = some octets) : loadWith reader first = loadWith reader second := by
  obtain ⟨root, rootExists, ownFile, projectFile⟩ := first
  cases hroot
  cases hexists
  cases h
  simp only [loadWith, ← hown, Repository.filePath]

/--
For a reader that gives mappings. In a directory with a file of its own the outcome is the same in
every other tree with that file. Without one the defaults hold if there is no project file, or one
without a section, and a section that is a table has the outcome of the same mapping in a file of
its own. A directory is no file.
-/
theorem loadWith_by_precedence (hreader : GivesMappings reader) {tree : FileTree} {path : Path}
    (hroot : tree.isDirectory path = true) :
    (∀ octets, tree.octets? (path ++ [ownFileName]) = some octets →
      ∀ second : FileTree, second.top = tree.top → second.isDirectory path = true →
        second.octets? (path ++ [ownFileName]) = some octets →
          loadWith reader (.ofTree second path) = loadWith reader (.ofTree tree path)) ∧
    (tree.octets? (path ++ [ownFileName]) = none →
      (∀ entries, HoldsDocument reader tree (path ++ [projectFileName]) entries →
        HasToolTable entries →
          (toolSection? entries = none → loadWith reader (.ofTree tree path) = .ok {}) ∧
          ∀ section_, toolSection? entries = some (.table section_) →
            ∀ (second : FileTree) (place : Path) (table : List (Text × Value)),
              second.isDirectory place = true →
                HoldsDocument reader second (place ++ [ownFileName]) table →
                  SameTable table section_ →
                    loadWith reader (.ofTree second place) =
                      loadWith reader (.ofTree tree path)) ∧
      (tree.octets? (path ++ [projectFileName]) = none →
        loadWith reader (.ofTree tree path) = .ok {})) ∧
    (tree.IsProper → ∀ name, tree.isDirectory (path ++ [name]) = true →
      tree.octets? (path ++ [name]) = none) := by
  refine ⟨?_, fun hown => ⟨?_, fun hproject => loadWith_eq_of_noFile hroot hown hproject⟩, ?_⟩
  · intro octets hown second htop hsecond hsame
    have hexists : second.isDirectory path = tree.isDirectory path := hsecond.trans hroot.symm
    exact loadWith_congr (congrArg path.render htop) hexists (hsame.trans hown.symm) hsame
  · rintro entries ⟨octets, hproject, hspells⟩ htool
    refine ⟨fun hnone => ?_, ?_⟩
    · exact loadWith_eq_of_projectFile hroot hown hproject hspells
        (projectSection_eq_none htool hnone)
    · rintro section_ hsection second place table hsecond ⟨own, hfile, htable⟩ hsame
      have hdistinct : HasDistinctKeys table := (htable.isKeyed hreader).distinct
      have hdistinct' : HasDistinctKeys section_ :=
        hasDistinctKeys_section (hspells.isKeyed hreader) hsection
      calc loadWith reader (.ofTree second place)
        _ = ofTable table := loadWith_eq_of_ownFile hsecond hfile htable
        _ = ofTable section_ := ofTable_congr hdistinct hdistinct' hsame
        _ = loadWith reader (.ofTree tree path) :=
          (loadWith_eq_of_projectFile hroot hown hproject hspells
            (projectSection_eq_table hsection)).symm
  · exact fun hproper name => FileTree.octets?_eq_none_of_isDirectory hproper

/-- Settings with a text for a truth value. -/
def wrongSettings : List (Text × Value) :=
  [("tag_prefix".toList, .text "r".toList), ("section_emoji".toList, .text "yes".toList)]

/-- A project with these settings for its section. -/
def wrongProject : List (Text × Value) :=
  [("tool".toList, .table [("versionkit".toList, .table wrongSettings)])]

/-- A file of this project beside a directory that has the name of a settings file. -/
def projectTree : FileTree :=
  .ofPaths "<root>".toList
    [([projectFileName],
      "[tool.versionkit]\ntag_prefix = 'r'\nsection_emoji = 'yes'\n".toList.map Char.toNat)]
    [[ownFileName]]

/-- A file of its own with these settings in another order, beside some project file. -/
def ownTree (project : List Nat) : FileTree :=
  .ofPaths "<root>".toList
    [([ownFileName], "section_emoji = 'yes'\ntag_prefix = 'r'\n".toList.map Char.toNat),
      ([projectFileName], project)]
    []

/--
In a section and in a file of its own the same settings fail alike, whatever octets stand in the
project file beside the latter.
-/
theorem wrongSettings_by_precedence :
    GivesMappings Toml.parse? ∧ projectTree.isDirectory [] = true ∧
      load (.ofTree projectTree []) = .error (.notBoolean "section_emoji".toList .text) ∧
      load (.ofTree (ownTree []) []) = load (.ofTree projectTree []) ∧
      load (.ofTree (ownTree [0xFF]) []) = load (.ofTree (ownTree []) []) := by
  have hproject : HoldsDocument Toml.parse? projectTree [projectFileName] wrongProject :=
    ⟨_, rfl, "[tool.versionkit]\ntag_prefix = 'r'\nsection_emoji = 'yes'\n".toList,
      by decide +kernel, by decide +kernel⟩
  have htool : HasToolTable wrongProject := fun value hvalue => Option.some.inj hvalue ▸ rfl
  have hown : HoldsDocument Toml.parse? (ownTree []) [ownFileName] wrongSettings.reverse :=
    ⟨_, rfl, "section_emoji = 'yes'\ntag_prefix = 'r'\n".toList, by decide +kernel,
      by decide +kernel⟩
  have hsame : SameTable wrongSettings.reverse wrongSettings :=
    sameTable_of_perm (by unfold HasDistinctKeys; decide) (List.reverse_perm _)
  have hroot : projectTree.isDirectory [] = true := by decide
  have hownRoot : (ownTree []).isDirectory [] = true := by decide
  obtain ⟨_, hprecedence, hdirectory⟩ := loadWith_by_precedence givesMappings_parse? hroot
  have hnoFile : projectTree.octets? [ownFileName] = none :=
    hdirectory (by unfold FileTree.IsProper; decide) ownFileName (by decide)
  refine ⟨givesMappings_parse?, hroot, by decide +kernel, ?_, ?_⟩
  · exact ((hprecedence hnoFile).1 _ hproject htool).2 wrongSettings rfl _ [] _ hownRoot hown hsame
  · have hothers := (loadWith_by_precedence givesMappings_parse? hownRoot).1
    exact hothers _ rfl (ownTree [0xFF]) rfl (by decide) rfl

end Settings

end NextRelease
