import NextRelease.Proofs.Resolution.Answer

/-!
# Resolving two lists of messages together

Under one tag, context and settings the answers to two lists of messages settle the answer to both
lists together: the commits follow each other, the counts add up, and of the increments and of the
base versions the greater one remains. A list of blank messages is the neutral one: its increment is
none and its base version is the previous one. So further commits never lower a version.
-/

namespace NextRelease

open Text

theorem classifyAll_append (xs ys : List Text) :
    classifyAll (xs ++ ys) = classifyAll xs ++ classifyAll ys := by
  simp [classifyAll]

/-! ## One list -/

section

variable {request : Request} {resolution : Resolution}

/-- An answer has no increment exactly if every message is blank. -/
theorem resolve_increment_eq_none_iff (h : resolve request = .ok resolution) :
    resolution.increment = .none ↔ ∀ message ∈ request.messages, allBlank message = true := by
  rw [(resolve_increment h).1, (resolve_commits h).2.1, Counts.incrementIfAny_eq_none_iff,
    Request.counts, Counts.total_ofCommits, List.length_eq_zero_iff, ← not_iff_not, ← ne_eq,
    Request.commits_ne_nil_iff]
  simp

theorem resolve_previousVersion_le (h : resolve request = .ok resolution) :
    resolution.previousVersion ≤ resolution.baseVersion := by
  have hle : resolution.previousVersion.after .none ≤
      resolution.previousVersion.after resolution.increment :=
    (Version.strictMono_after _).monotone (Increment.none_le _)
  rw [← (resolve_increment h).2] at hle
  exact hle

/-- The version stays as it is exactly if every message is blank. -/
theorem resolve_baseVersion_eq_iff (h : resolve request = .ok resolution) :
    resolution.baseVersion = resolution.previousVersion ↔
      ∀ message ∈ request.messages, allBlank message = true := by
  have hsame : resolution.previousVersion.after resolution.increment =
      resolution.previousVersion.after .none ↔ resolution.increment = .none :=
    (Version.strictMono_after _).injective.eq_iff
  rw [← (resolve_increment h).2] at hsame
  exact hsame.trans (resolve_increment_eq_none_iff h)

end

/-! ## Two lists -/

/-- The previous version does not depend on the messages. -/
theorem resolve_previousVersion_eq {request : Request} {xs ys : List Text}
    {first second : Resolution}
    (hfirst : resolve { request with messages := xs } = .ok first)
    (hsecond : resolve { request with messages := ys } = .ok second) :
    first.previousVersion = second.previousVersion := by
  obtain ⟨reading, hreading, hprevious, _⟩ := resolve_reading hfirst
  obtain ⟨reading', hreading', hprevious', _⟩ := resolve_reading hsecond
  obtain rfl := Except.ok.inj (hreading.symm.trans hreading')
  rw [hprevious, hprevious']

/--
The answer to two lists of messages one after the other is put together from their two answers. The
commits follow each other, every count is the sum of the two, the increment is the stronger one, for
which the one of blank messages is neutral, and the base version is the greater one. So the base
version of a part is never greater, and no base version is less than the previous version, which it
equals exactly if every message is blank.
-/
theorem resolve_append {request : Request} {xs ys : List Text} {first second both : Resolution}
    (hfirst : resolve { request with messages := xs } = .ok first)
    (hsecond : resolve { request with messages := ys } = .ok second)
    (hboth : resolve { request with messages := xs ++ ys } = .ok both) :
    both.commits = first.commits ++ second.commits ∧
      (∀ category,
        both.counts.get category = first.counts.get category + second.counts.get category) ∧
      both.increment = first.increment.max second.increment ∧
      (∀ increment : Increment,
        increment.max .none = increment ∧ Increment.none.max increment = increment) ∧
      both.baseVersion = max first.baseVersion second.baseVersion ∧
      first.baseVersion ≤ both.baseVersion ∧ second.baseVersion ≤ both.baseVersion ∧
      ∀ messages resolution, resolve { request with messages } = .ok resolution →
        (resolution.increment = .none ↔ ∀ message ∈ messages, allBlank message = true) ∧
          resolution.previousVersion ≤ resolution.baseVersion ∧
          (resolution.baseVersion = resolution.previousVersion ↔
            ∀ message ∈ messages, allBlank message = true) := by
  obtain ⟨hincrement, hbase⟩ := resolve_increment hboth
  obtain ⟨hincrement₁, hbase₁⟩ := resolve_increment hfirst
  obtain ⟨hincrement₂, hbase₂⟩ := resolve_increment hsecond
  have happend : both.commits = first.commits ++ second.commits := by
    rw [(resolve_commits hboth).1, (resolve_commits hfirst).1, (resolve_commits hsecond).1]
    exact classifyAll_append xs ys
  have hcounts : both.counts = Counts.ofCommits (first.commits ++ second.commits) := by
    rw [resolve_counts hboth, happend]
  have hmax : both.increment = max first.increment second.increment := by
    rw [hincrement, hincrement₁, hincrement₂, hcounts, resolve_counts hfirst,
      resolve_counts hsecond]
    exact Counts.incrementIfAny_append _ _
  have hversion : both.baseVersion = max first.baseVersion second.baseVersion := by
    rw [hbase, hmax, Version.after_max, hbase₁, hbase₂, resolve_previousVersion_eq hboth hfirst,
      resolve_previousVersion_eq hsecond hfirst]
  refine ⟨happend, ?_, ?_, ?_, hversion, ?_, ?_, ?_⟩
  · intro category
    rw [hcounts, resolve_counts hfirst, resolve_counts hsecond]
    exact Counts.get_ofCommits_append _ _ category
  · rw [hmax, Increment.max_eq_max]
  · intro increment
    rw [Increment.max_eq_max, Increment.max_eq_max]
    exact ⟨max_eq_left (Increment.none_le _), max_eq_right (Increment.none_le _)⟩
  · rw [hversion]
    exact le_max_left _ _
  · rw [hversion]
    exact le_max_right _ _
  · intro messages resolution h
    exact ⟨resolve_increment_eq_none_iff h, resolve_previousVersion_le h,
      resolve_baseVersion_eq_iff h⟩

/-- A release after `v1.4.2` without any message. -/
def emptyRelease : Request where
  lastTag := some "v1.4.2".toList
  messages := []
  context :=
    { currentBranch := ['d'], defaultBranch := ['d'], shortRevision := "abc".toList,
      isReleaseRequested := true }

theorem emptyRelease_append : ∃ first second both,
    resolve { emptyRelease with messages := ["feat: a".toList, " ".toList] } = .ok first ∧
      resolve { emptyRelease with messages := ["fix: b".toList] } = .ok second ∧
      resolve { emptyRelease with
        messages := ["feat: a".toList, " ".toList] ++ ["fix: b".toList] } = .ok both ∧
      first.baseVersion = ⟨1, 5, 0⟩ ∧ second.baseVersion = ⟨1, 4, 3⟩ ∧
      both.baseVersion = max ⟨1, 5, 0⟩ ⟨1, 4, 3⟩ ∧
      both.increment = first.increment.max second.increment := by
  obtain ⟨first, hfirst, hbase₁⟩ : ∃ first,
      resolve { emptyRelease with messages := ["feat: a".toList, " ".toList] } = .ok first ∧
        first.baseVersion = ⟨1, 5, 0⟩ := ⟨_, rfl, rfl⟩
  obtain ⟨second, hsecond, hbase₂⟩ : ∃ second,
      resolve { emptyRelease with messages := ["fix: b".toList] } = .ok second ∧
        second.baseVersion = ⟨1, 4, 3⟩ := ⟨_, rfl, rfl⟩
  obtain ⟨both, hboth⟩ : ∃ both,
      resolve { emptyRelease with
        messages := ["feat: a".toList, " ".toList] ++ ["fix: b".toList] } = .ok both := ⟨_, rfl⟩
  obtain ⟨_, _, hincrement, _, hversion, _⟩ := resolve_append hfirst hsecond hboth
  refine ⟨first, second, both, hfirst, hsecond, hboth, hbase₁, hbase₂, ?_, hincrement⟩
  rw [hversion, hbase₁, hbase₂]

end NextRelease
