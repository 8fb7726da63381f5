import NextRelease.Proofs.Toml.Keys
import NextRelease.Toml.Document

/-!
# Keys of documents

Every table of a document has distinct keys, wherever it stands: a document that defines a key twice
is refused. Values are read by three readers that call each other, and each statement of the
document changes the table under construction.
-/

namespace NextRelease.Toml

open Text

/-! ## Scalars -/

theorem isKeyed_of_number? {token : Text} {value : Value} (h : number? token = some value) :
    value.IsKeyed := by
  simp only [number?] at h
  -- Whatever a token is, it is no table and no array.
  split_ifs at h
  all_goals
    cases h
    exact .simple nofun nofun

theorem isKeyed_of_scalar? {token : Text} {value : Value} (h : scalar? token = some value) :
    value.IsKeyed := by
  rw [scalar?] at h
  split_ifs at h
  · cases h
    exact .simple nofun nofun
  · cases h
    exact .simple nofun nofun
  · cases h
    exact .simple nofun nofun
  · exact isKeyed_of_number? h

theorem isKeyed_of_scalarAtStart? {text rest : Text} {value : Value}
    (h : scalarAtStart? text = some (value, rest)) : value.IsKeyed := by
  simp only [scalarAtStart?] at h
  split_ifs at h
  · cases h
    exact .simple nofun nofun
  · cases h
    exact .simple nofun nofun
  · obtain ⟨found, hfound, hvalue⟩ := Option.map_eq_some_iff.mp h
    cases hvalue
    exact isKeyed_of_scalar? hfound

/-! ## Inline tables -/

/-- What each step keeps holds at the end, if no step fails. -/
theorem foldlM_keeps {σ α : Type} {step : σ → α → Option σ} {P : σ → Prop} {items : List α}
    {start result : σ}
    (hstep : ∀ item ∈ items, ∀ before after, P before → step before item = some after → P after)
    (hstart : P start) (h : items.foldlM step start = some result) : P result := by
  induction items generalizing start with
  | nil =>
    cases h
    exact hstart
  | cons item rest ih =>
    obtain ⟨hitem, hrest⟩ := List.forall_mem_cons.mp hstep
    rw [List.foldlM_cons, Option.bind_eq_bind, Option.bind_eq_some_iff] at h
    obtain ⟨next, hnext, h⟩ := h
    exact ih hrest (hitem start next hstart hnext) h

theorem isKeyed_of_ofAssignments {fields : List (List Text × Value)} {entries : List (Text × Value)}
    (hfields : ∀ field ∈ fields, field.2.IsKeyed) (h : ofAssignments fields = some entries) :
    (Value.table entries).IsKeyed := by
  obtain ⟨built, hbuilt, rfl⟩ := Option.map_eq_some_iff.mp h
  have hstep : ∀ field ∈ fields, ∀ before after, AreKeyed before →
      assign field.2 field.1 before = some after → AreKeyed after :=
    fun field hfield => keeps_assign (hfields field hfield) field.1
  exact (foldlM_keeps hstep areKeyed_nil hbuilt).finish

/-! ## Values -/

/-- With this fuel the three readers give values whose tables have distinct keys. -/
structure ReadersKeyed (fuel : Nat) : Prop where
  value : ∀ room text value rest, value? fuel room text = some (value, rest) → value.IsKeyed
  items : ∀ room text items rest, items? fuel room text = some (items, rest) →
    ∀ item ∈ items, item.IsKeyed
  fields : ∀ room text fields rest, fields? fuel room text = some (fields, rest) →
    ∀ field ∈ fields, field.2.IsKeyed

namespace ReadersKeyed

variable {fuel room : Nat} (h : ReadersKeyed fuel) {text rest : Text}
include h

theorem value_succ {value : Value} (hvalue : value? (fuel + 1) room text = some (value, rest)) :
    value.IsKeyed := by
  unfold value? at hvalue
  split at hvalue
  · obtain ⟨⟨items, after⟩, hitems, hfound⟩ := Option.map_eq_some_iff.mp hvalue
    cases hfound
    exact .array (h.items _ _ _ _ hitems)
  · simp only [Option.bind_eq_bind, Option.bind_eq_some_iff] at hvalue
    obtain ⟨⟨fields, after⟩, hfields, entries, hentries, hfound⟩ := hvalue
    cases hfound
    exact isKeyed_of_ofAssignments (h.fields _ _ _ _ hfields) hentries
  · cases hvalue
    exact .simple nofun nofun
  · cases hvalue
    exact .simple nofun nofun
  · split at hvalue
    · obtain ⟨⟨content, after⟩, _, hfound⟩ := Option.map_eq_some_iff.mp hvalue
      cases hfound
      exact .simple nofun nofun
    · exact isKeyed_of_scalarAtStart? hvalue
  · cases hvalue

theorem items_succ {items : List Value}
    (hitems : items? (fuel + 1) room text = some (items, rest)) :
    ∀ item ∈ items, item.IsKeyed := by
  simp only [items?, Option.bind_eq_bind, Option.bind_eq_some_iff] at hitems
  obtain ⟨layout, _, hitems⟩ := hitems
  split at hitems
  · cases hitems
    exact List.forall_mem_nil _
  · simp only [Option.bind_eq_some_iff] at hitems
    obtain ⟨⟨first, afterFirst⟩, hfirst, mark, _, hitems⟩ := hitems
    have hkeyed := h.value _ _ _ _ hfirst
    split at hitems
    · obtain ⟨⟨others, after⟩, hothers, hfound⟩ := Option.bind_eq_some_iff.mp hitems
      cases hfound
      exact List.forall_mem_cons.mpr ⟨hkeyed, h.items _ _ _ _ hothers⟩
    · cases hitems
      exact List.forall_mem_singleton.mpr hkeyed
    · cases hitems

theorem fields_succ {fields : List (List Text × Value)}
    (hfields : fields? (fuel + 1) room text = some (fields, rest)) :
    ∀ field ∈ fields, field.2.IsKeyed := by
  simp only [fields?, Option.bind_eq_bind, Option.bind_eq_some_iff] at hfields
  obtain ⟨layout, _, hfields⟩ := hfields
  split at hfields
  · cases hfields
    exact List.forall_mem_nil _
  · simp only [Option.bind_eq_some_iff] at hfields
    obtain ⟨⟨path, afterPath⟩, _, afterEquals, _, ⟨content, afterContent⟩, hcontent, mark, _,
      hfields⟩ := hfields
    have hkeyed := h.value _ _ _ _ hcontent
    split at hfields
    · obtain ⟨⟨others, after⟩, hothers, hfound⟩ := Option.bind_eq_some_iff.mp hfields
      cases hfound
      exact List.forall_mem_cons.mpr ⟨hkeyed, h.fields _ _ _ _ hothers⟩
    · cases hfields
      exact List.forall_mem_singleton.mpr hkeyed
    · cases hfields

end ReadersKeyed

theorem readersKeyed (fuel : Nat) : ReadersKeyed fuel := by
  induction fuel with
  | zero => exact ⟨nofun, nofun, nofun⟩
  | succ fuel ih =>
    exact ⟨fun _ _ _ _ => ih.value_succ, fun _ _ _ _ => ih.items_succ,
      fun _ _ _ _ => ih.fields_succ⟩

/-! ## Documents -/

/-- What a statement assigns has distinct keys; a header assigns nothing. -/
def Statement.IsKeyed : Statement → Prop
  | assign _ content => content.IsKeyed
  | header _ => True
  | nextHeader _ => True

theorem isKeyed_of_statement? {text rest : Text} {statement : Statement}
    (h : statement? text = some (statement, rest)) : statement.IsKeyed := by
  unfold statement? at h
  split at h
  · obtain ⟨⟨path, after⟩, _, h⟩ := Option.bind_eq_some_iff.mp h
    split at h
    · cases h
      trivial
    · cases h
  · obtain ⟨⟨path, after⟩, _, h⟩ := Option.bind_eq_some_iff.mp h
    split at h
    · cases h
      trivial
    · cases h
  · simp only [Option.bind_eq_bind, Option.bind_eq_some_iff] at h
    obtain ⟨⟨path, afterPath⟩, _, afterEquals, _, ⟨content, afterContent⟩, hcontent, h⟩ := h
    cases h
    exact (readersKeyed _).value _ _ _ _ hcontent

theorem isKeyed_of_mem_statements? {fuel : Nat} {text : Text} {statements : List Statement}
    (h : statements? fuel text = some statements) :
    ∀ statement ∈ statements, statement.IsKeyed := by
  induction fuel generalizing text statements with
  | zero => cases h
  | succ fuel ih =>
    simp only [statements?, Option.bind_eq_bind, Option.bind_eq_some_iff] at h
    obtain ⟨layout, _, h⟩ := h
    split at h
    · cases h
      exact List.forall_mem_nil _
    · simp only [Option.bind_eq_some_iff] at h
      obtain ⟨⟨first, afterFirst⟩, hfirst, afterLine, _, others, hothers, h⟩ := h
      cases h
      exact List.forall_mem_cons.mpr ⟨isKeyed_of_statement? hfirst, ih hothers⟩

theorem areKeyed_openHeader {change : Text → Entries → Option Entries}
    (hchange : ∀ key, Keeps (change key)) {progress result : Progress} {path : List Text}
    (hprogress : AreKeyed progress.entries)
    (h : progress.openHeader change path = some result) : AreKeyed result.entries := by
  simp only [Progress.openHeader, Option.bind_eq_bind, Option.bind_eq_some_iff] at h
  obtain ⟨key, _, entries, hentries, h⟩ := h
  cases h
  exact keeps_within (keeps_extend (hchange key) _) _ _ _ hprogress hentries

/-- Every statement leaves tables with distinct keys behind. -/
theorem areKeyed_take {progress result : Progress} {statement : Statement}
    (hstatement : statement.IsKeyed) (hprogress : AreKeyed progress.entries)
    (h : progress.take statement = some result) : AreKeyed result.entries := by
  cases statement with
  | assign path content =>
    obtain ⟨entries, hentries, rfl⟩ := bind_pure_eq_some_iff.mp h
    exact keeps_within (keeps_assign hstatement path) _ _ _ hprogress hentries
  | header path => exact areKeyed_openHeader keeps_openTable hprogress h
  | nextHeader path => exact areKeyed_openHeader keeps_openNext hprogress h

/-- Every table of a document has distinct keys. -/
theorem isKeyed_of_parse? {text : Text} {entries : List (Text × Value)}
    (h : parse? text = some entries) : (Value.table entries).IsKeyed := by
  obtain ⟨statements, hstatements, h⟩ := Option.bind_eq_some_iff.mp h
  obtain ⟨progress, hprogress, rfl⟩ := bind_pure_eq_some_iff.mp h
  have hentries : AreKeyed progress.entries :=
    foldlM_keeps (P := fun progress => AreKeyed progress.entries)
      (fun statement hstatement _ _ =>
        areKeyed_take (isKeyed_of_mem_statements? hstatements statement hstatement))
      areKeyed_nil hprogress
  exact hentries.finish

end NextRelease.Toml
