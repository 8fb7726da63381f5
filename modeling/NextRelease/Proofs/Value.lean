import Mathlib.Data.List.Nodup
import NextRelease.Value

/-!
# Tables of values

A table with distinct keys is a mapping: only the value under each key counts, not the order of the
entries.
-/

namespace NextRelease

/-- No two entries have the same key. -/
def HasDistinctKeys {α : Type} (entries : List (Text × α)) : Prop := (entries.map (·.1)).Nodup

/-- Two tables have the same value under every key, or none. -/
def SameTable (first second : List (Text × Value)) : Prop :=
  ∀ key, entry? key first = entry? key second

theorem mem_keys_iff {α : Type} {entries : List (Text × α)} {key : Text} :
    key ∈ entries.map (·.1) ↔ entries.lookup key ≠ none := by
  rw [ne_eq, List.lookup_eq_none_iff, List.mem_map, not_forall]
  refine exists_congr fun entry => ?_
  rw [Classical.not_imp, bne_iff_ne, ne_eq, not_not, eq_comm]

theorem mem_of_lookup_eq_some {κ α : Type} [BEq κ] [LawfulBEq κ] {entries : List (κ × α)} {key : κ}
    {found : α} (h : entries.lookup key = some found) : (key, found) ∈ entries := by
  obtain ⟨front, rest, rfl, _⟩ := List.lookup_eq_some_iff.mp h
  exact List.mem_append_right front List.mem_cons_self

/-- Mappings with the same values have the same keys. -/
theorem keys_perm_of_sameTable {first second : List (Text × Value)}
    (hfirst : HasDistinctKeys first) (hsecond : HasDistinctKeys second)
    (h : SameTable first second) : (first.map (·.1)).Perm (second.map (·.1)) := by
  refine (List.perm_ext_iff_of_nodup hfirst hsecond).mpr fun key => ?_
  have hkey : first.lookup key = second.lookup key := h key
  rw [mem_keys_iff, mem_keys_iff, hkey]

/-- Under distinct keys no entry hides another one. -/
theorem lookup_eq_some_iff_mem {α : Type} {entries : List (Text × α)} (h : HasDistinctKeys entries)
    {key : Text} {found : α} : entries.lookup key = some found ↔ (key, found) ∈ entries := by
  refine ⟨mem_of_lookup_eq_some, fun hmem => ?_⟩
  obtain ⟨front, rest, rfl⟩ := List.append_of_mem hmem
  rw [HasDistinctKeys, List.map_append, List.map_cons, List.nodup_middle, List.nodup_cons] at h
  refine List.lookup_eq_some_iff.mpr ⟨front, rest, rfl, fun entry hentry => bne_iff_ne.mpr ?_⟩
  intro hkey
  exact h.1 (List.mem_append_left _ (List.mem_map.mpr ⟨entry, hentry, hkey.symm⟩))

/-- The entries of a mapping may stand in any order. -/
theorem sameTable_of_perm {first second : List (Text × Value)} (hfirst : HasDistinctKeys first)
    (h : first.Perm second) : SameTable first second := by
  have hsecond : HasDistinctKeys second := (h.map _).nodup_iff.mp hfirst
  intro key
  refine Option.ext fun value => ?_
  unfold entry?
  rw [lookup_eq_some_iff_mem hfirst, lookup_eq_some_iff_mem hsecond, h.mem_iff]

namespace Value

/-- Every table that a value consists of has distinct keys. -/
inductive IsKeyed : Value → Prop
  | table {entries : List (Text × Value)} (distinct : HasDistinctKeys entries)
    (inner : ∀ entry ∈ entries, IsKeyed entry.2) : IsKeyed (.table entries)
  | array {items : List Value} (inner : ∀ item ∈ items, IsKeyed item) : IsKeyed (.array items)
  | simple {value : Value} (harray : value.kind ≠ .array) (htable : value.kind ≠ .table) :
    IsKeyed value

variable {entries : List (Text × Value)}

theorem IsKeyed.distinct (h : (Value.table entries).IsKeyed) : HasDistinctKeys entries := by
  cases h with
  | table distinct _ => exact distinct
  | simple _ htable => exact absurd rfl htable

/-- What stands under a key of a table is one of its parts. -/
theorem IsKeyed.of_lookup (h : (Value.table entries).IsKeyed) {key : Text} {value : Value}
    (hentry : entry? key entries = some value) : value.IsKeyed := by
  cases h with
  | table _ inner => exact inner _ (mem_of_lookup_eq_some hentry)
  | simple _ htable => exact absurd rfl htable

end Value

end NextRelease
