import NextRelease.Proofs.Value
import NextRelease.Toml.Node

/-!
# Keys of tables under construction

A key is put into a table only if the table does not have it yet, and what stands under a key is
replaced in its place. So the tables of a document have distinct keys at every stage, and so have
the tables that are made of them in the end.
-/

namespace NextRelease.Toml

/-- Every table that a node consists of has distinct keys. -/
inductive Node.IsKeyed : Node → Prop
  | value {content : Value} (h : content.IsKeyed) : IsKeyed (.value content)
  | table {origin : Origin} {entries : Entries} (distinct : HasDistinctKeys entries)
    (inner : ∀ entry ∈ entries, IsKeyed entry.2) : IsKeyed (.table origin entries)
  | series {tables : List Entries} (distinct : ∀ entries ∈ tables, HasDistinctKeys entries)
    (inner : ∀ entries ∈ tables, ∀ entry ∈ entries, IsKeyed entry.2) : IsKeyed (.series tables)

/-- The keys of a table are distinct, and so are those of every table in it. -/
structure AreKeyed (entries : Entries) : Prop where
  distinct : HasDistinctKeys entries
  inner : ∀ entry ∈ entries, entry.2.IsKeyed

theorem areKeyed_nil : AreKeyed [] := ⟨List.nodup_nil, by simp⟩

theorem isKeyed_table_iff {origin : Origin} {entries : Entries} :
    (Node.table origin entries).IsKeyed ↔ AreKeyed entries := by
  constructor
  · rintro (_ | ⟨distinct, inner⟩)
    exact ⟨distinct, inner⟩
  · rintro ⟨distinct, inner⟩
    exact .table distinct inner

theorem isKeyed_series_iff {tables : List Entries} :
    (Node.series tables).IsKeyed ↔ ∀ entries ∈ tables, AreKeyed entries := by
  constructor
  · rintro (_ | _ | ⟨distinct, inner⟩) entries hentries
    exact ⟨distinct entries hentries, inner entries hentries⟩
  · intro h
    exact .series (fun entries hentries => (h entries hentries).distinct)
      fun entries hentries => (h entries hentries).inner

namespace AreKeyed

variable {entries : Entries} {key : Text} {node : Node}

theorem of_lookup (h : AreKeyed entries) (hlookup : entries.lookup key = some node) :
    node.IsKeyed :=
  h.inner _ (mem_of_lookup_eq_some hlookup)

/-- Replacing what stands under a key keeps the keys. -/
theorem put (h : AreKeyed entries) (hnode : node.IsKeyed) : AreKeyed (put key node entries) where
  distinct := by
    have hkeys : (Toml.put key node entries).map (·.1) = entries.map (·.1) := by
      rw [Toml.put, List.map_map]
      refine List.map_congr_left fun entry _ => ?_
      rw [Function.comp_apply]
      split
      · next hkey => exact hkey.symm
      · rfl
    rw [HasDistinctKeys, hkeys]
    exact h.distinct
  inner := by
    intro entry hentry
    obtain ⟨old, hold, rfl⟩ := List.mem_map.mp hentry
    split
    · exact hnode
    · exact h.inner old hold

/-- A key that the table lacks may be added. -/
theorem append (h : AreKeyed entries) (hlookup : entries.lookup key = none)
    (hnode : node.IsKeyed) : AreKeyed (entries ++ [(key, node)]) where
  distinct := by
    have hnew : key ∉ entries.map (·.1) := mem_keys_iff.not.mpr (not_not.mpr hlookup)
    rw [HasDistinctKeys, List.map_append, List.map_singleton, List.nodup_append_comm]
    exact List.nodup_cons.mpr ⟨hnew, h.distinct⟩
  inner := by
    intro entry hentry
    rcases List.mem_append.mp hentry with hold | hnew
    · exact h.inner entry hold
    · rw [List.mem_singleton.mp hnew]
      exact hnode

end AreKeyed

/-! ## Changes of a table -/

/-- The change leaves tables with distinct keys behind, if it succeeds. -/
def Keeps (change : Entries → Option Entries) : Prop :=
  ∀ entries result, AreKeyed entries → change entries = some result → AreKeyed result

/-- A step and a rearrangement of its answer. -/
theorem bind_pure_eq_some_iff {α β : Type} {step : Option α} {arrange : α → β} {result : β} :
    (step >>= fun answer => pure (arrange answer)) = some result ↔
      ∃ answer, step = some answer ∧ arrange answer = result := by
  simp [Option.bind_eq_some_iff]

variable {change : Entries → Option Entries}

theorem keeps_within (h : Keeps change) (path : List Text) : Keeps (within change path) := by
  induction path with
  | nil => exact h
  | cons key path ih =>
    intro entries result hentries hresult
    unfold within at hresult
    split at hresult
    · next origin inner hlookup =>
      obtain ⟨changed, hchanged, rfl⟩ := bind_pure_eq_some_iff.mp hresult
      have hinner := isKeyed_table_iff.mp (hentries.of_lookup hlookup)
      exact hentries.put (isKeyed_table_iff.mpr (ih inner changed hinner hchanged))
    · next last earlier hlookup =>
      obtain ⟨changed, hchanged, rfl⟩ := bind_pure_eq_some_iff.mp hresult
      obtain ⟨hlast, hearlier⟩ :=
        List.forall_mem_cons.mp (isKeyed_series_iff.mp (hentries.of_lookup hlookup))
      have htables := List.forall_mem_cons.mpr ⟨ih last changed hlast hchanged, hearlier⟩
      exact hentries.put (isKeyed_series_iff.mpr htables)
    · cases hresult

theorem keeps_extend (h : Keeps change) (path : List Text) : Keeps (extend change path) := by
  induction path with
  | nil => exact h
  | cons key path ih =>
    intro entries result hentries hresult
    unfold extend at hresult
    split at hresult
    · next hlookup =>
      obtain ⟨changed, hchanged, rfl⟩ := bind_pure_eq_some_iff.mp hresult
      exact hentries.append hlookup (isKeyed_table_iff.mpr (ih [] changed areKeyed_nil hchanged))
    · next inner hlookup =>
      obtain ⟨changed, hchanged, rfl⟩ := bind_pure_eq_some_iff.mp hresult
      have hinner := isKeyed_table_iff.mp (hentries.of_lookup hlookup)
      exact hentries.put (isKeyed_table_iff.mpr (ih inner changed hinner hchanged))
    · cases hresult

theorem keeps_assign {content : Value} (h : content.IsKeyed) (path : List Text) :
    Keeps (assign content path) := by
  intro entries result hentries hresult
  fun_induction assign content path entries generalizing result with
  | case1 => cases hresult
  | case2 => cases hresult
  | case3 key entries hnew =>
    cases hresult
    exact hentries.append (Option.not_isSome_iff_eq_none.mp hnew) (.value h)
  | case4 key path entries _ hlookup ih =>
    obtain ⟨inner, hinner, rfl⟩ := bind_pure_eq_some_iff.mp hresult
    exact hentries.append hlookup (isKeyed_table_iff.mpr (ih inner areKeyed_nil hinner))
  | case5 => cases hresult
  | case6 key path entries _ origin inner hlookup _ ih =>
    obtain ⟨changed, hchanged, rfl⟩ := bind_pure_eq_some_iff.mp hresult
    have hinner := isKeyed_table_iff.mp (hentries.of_lookup hlookup)
    exact hentries.put (isKeyed_table_iff.mpr (ih changed hinner hchanged))
  | case7 => cases hresult

theorem keeps_openTable (key : Text) : Keeps (openTable key) := by
  intro entries result hentries hresult
  unfold openTable at hresult
  split at hresult
  · next hlookup =>
    cases hresult
    exact hentries.append hlookup (isKeyed_table_iff.mpr areKeyed_nil)
  · next inner hlookup =>
    cases hresult
    exact hentries.put (isKeyed_table_iff.mpr (isKeyed_table_iff.mp (hentries.of_lookup hlookup)))
  · cases hresult

theorem keeps_openNext (key : Text) : Keeps (openNext key) := by
  intro entries result hentries hresult
  unfold openNext at hresult
  split at hresult
  · next hlookup =>
    cases hresult
    exact hentries.append hlookup (isKeyed_series_iff.mpr (by simp [areKeyed_nil]))
  · next tables hlookup =>
    cases hresult
    have htables := isKeyed_series_iff.mp (hentries.of_lookup hlookup)
    exact hentries.put
      (isKeyed_series_iff.mpr (List.forall_mem_cons.mpr ⟨areKeyed_nil, htables⟩))
  · cases hresult

/-! ## Finished tables -/

theorem finishEntries_eq (entries : Entries) :
    finishEntries entries = entries.map fun entry => (entry.1, entry.2.finish) := by
  induction entries with
  | nil => rfl
  | cons entry rest ih => rw [finishEntries, ih, List.map_cons]

theorem finishSeries_eq (tables : List Entries) :
    finishSeries tables = tables.map fun entries => .table (finishEntries entries) := by
  induction tables with
  | nil => rfl
  | cons entries rest ih => rw [finishSeries, ih, List.map_cons]

/-- Finishing a table keeps its keys. -/
theorem isKeyed_table_finishEntries {entries : Entries} (distinct : HasDistinctKeys entries)
    (inner : ∀ entry ∈ entries, entry.2.finish.IsKeyed) :
    (Value.table (finishEntries entries)).IsKeyed := by
  rw [finishEntries_eq]
  refine .table ?_ ?_
  · rw [HasDistinctKeys, List.map_map]
    exact distinct
  · intro entry hentry
    obtain ⟨old, hold, rfl⟩ := List.mem_map.mp hentry
    exact inner old hold

theorem Node.IsKeyed.finish {node : Node} (h : node.IsKeyed) : node.finish.IsKeyed := by
  induction h with
  | value h =>
    rw [Node.finish]
    exact h
  | table distinct _ ih =>
    rw [Node.finish]
    exact isKeyed_table_finishEntries distinct ih
  | series distinct _ ih =>
    rw [Node.finish, finishSeries_eq]
    refine .array fun item hitem => ?_
    obtain ⟨entries, hentries, rfl⟩ := List.mem_map.mp (List.mem_reverse.mp hitem)
    exact isKeyed_table_finishEntries (distinct entries hentries) (ih entries hentries)

theorem AreKeyed.finish {entries : Entries} (h : AreKeyed entries) :
    (Value.table (finishEntries entries)).IsKeyed :=
  isKeyed_table_finishEntries h.distinct fun entry hentry => (h.inner entry hentry).finish

end NextRelease.Toml
