import NextRelease.Proofs.Notes.Lines
import NextRelease.Proofs.Resolution.Answer

/-!
# What context and settings cannot change

Of the build context and the settings only the prefix of tags reaches the version: it decides how
the last tag is read. The rest of the context decides the scenario and the suffix, and the rest of
the settings how the notes look. Both show in the title line of the notes, and only the emoji show
below it.
-/

namespace NextRelease

open Text

/-- An answer without what the context and the looks of the notes decide. -/
def Resolution.withoutBuild (resolution : Resolution) : Resolution :=
  { resolution with
    finalVersion := [], scenario := .release, releaseNotes := [], suffixReason := [] }

/-- The body of the notes, under the title line. -/
def Request.notesBody (request : Request) : Text :=
  joinLines (Notes.bodyLines request.settings.sectionEmoji request.commits)

theorem resolve_releaseNotes {request : Request} {resolution : Resolution}
    (h : resolve request = .ok resolution) :
    resolution.releaseNotes =
      Notes.titleLine request.settings.notesTitle resolution.finalVersion ++
        '\n' :: request.notesBody := by
  rw [(resolve_commits h).2.2]
  exact Notes.render_eq_append _ _ _ _

section

variable {tag : Option Text} {messages : List Text} {context context' : BuildContext}
  {settings settings' : Settings}

/-- The emoji show only in headings, and without commits there is none. -/
theorem notesBody_eq
    (h : settings.sectionEmoji = settings'.sectionEmoji ∨
      ∀ message ∈ messages, allBlank message = true) :
    Request.notesBody ⟨tag, messages, context, settings⟩ =
      Request.notesBody ⟨tag, messages, context', settings'⟩ := by
  rcases h with hemoji | hblank
  · simp only [Request.notesBody, Request.commits, hemoji]
  · have hnone : classifyAll messages = [] := by
      simpa [classifyAll, List.filter_eq_nil_iff] using hblank
    simp only [Request.notesBody, Request.commits, hnone]
    rfl

theorem withoutBuild_eq {first second : Resolution}
    (htags : settings.tagPrefix = settings'.tagPrefix)
    (hfirst : resolve ⟨tag, messages, context, settings⟩ = .ok first)
    (hsecond : resolve ⟨tag, messages, context', settings'⟩ = .ok second) :
    first.withoutBuild = second.withoutBuild := by
  obtain ⟨_, reading, hreading, hanswer⟩ := resolve_eq_ok_iff.mp hfirst
  obtain ⟨_, reading', hreading', hanswer'⟩ := resolve_eq_ok_iff.mp hsecond
  obtain rfl : reading = reading' := by
    rw [Request.reading, htags] at hreading
    exact Except.ok.inj (hreading.symm.trans hreading')
  rcases hanswer with ⟨hnone, _, rfl⟩ | ⟨hsome, _, reason, hreason, rfl⟩
  · rcases hanswer' with ⟨_, _, rfl⟩ | ⟨hsome', _⟩
    · rfl
    · exact absurd hnone hsome'
  · rcases hanswer' with ⟨hnone', _⟩ | ⟨_, _, reason', hreason', rfl⟩
    · exact absurd hnone' hsome
    · obtain rfl : reason = reason' := Except.ok.inj (hreason.symm.trans hreason')
      rfl

/--
Build context and settings decide neither the version nor the body of the notes. For one tag and one
list of messages, two answers under settings with the same prefix of tags are the same but for the
version to publish, the scenario, the notes and the reason for the suffix. The scenario is that of
the context alone. The notes are a title line, which holds the version, and a body, which is the
same if both settings ask for emoji or neither does, or if every message is blank. Settings that
differ in the default branch alone never make a difference.
-/
theorem resolve_independent {first second : Resolution}
    (htags : settings.tagPrefix = settings'.tagPrefix)
    (hfirst : resolve ⟨tag, messages, context, settings⟩ = .ok first)
    (hsecond : resolve ⟨tag, messages, context', settings'⟩ = .ok second) :
    first.withoutBuild = second.withoutBuild ∧
      first.scenario = context.scenario ∧ second.scenario = context'.scenario ∧
      (∃ rest rest',
        first.releaseNotes =
            Notes.titleLine settings.notesTitle first.finalVersion ++ '\n' :: rest ∧
          second.releaseNotes =
            Notes.titleLine settings'.notesTitle second.finalVersion ++ '\n' :: rest' ∧
          (settings.sectionEmoji = settings'.sectionEmoji ∨
              (∀ message ∈ messages, allBlank message = true) →
            rest = rest')) ∧
      ∀ (request : Request) (branch : Text),
        resolve { request with settings := { request.settings with defaultBranch := branch } } =
          resolve request := by
  refine ⟨withoutBuild_eq htags hfirst hsecond, resolve_scenario hfirst,
    resolve_scenario hsecond, ?_, ?_⟩
  · exact ⟨_, _, resolve_releaseNotes hfirst, resolve_releaseNotes hsecond, notesBody_eq⟩
  · intro request branch
    rfl

end

/-- A feature in a build for which a release is asked, under a title and with emoji. -/
def featureBuild (isPullRequest : Bool) (title : Text) : Request where
  lastTag := some "v1.4.2".toList
  messages := ["feat: a".toList, " ".toList]
  context :=
    { currentBranch := ['d'], defaultBranch := ['d'], shortRevision := "abc".toList,
      isPullRequest, pullRequestId := some ['7'], isReleaseRequested := true }
  settings := { notesTitle := title, sectionEmoji := true }

theorem featureBuild_independent :
    ∃ first second,
      resolve (featureBuild true ("A\n".toList ++ placeholder)) = .ok first ∧
        resolve (featureBuild false Notes.defaultTitle) = .ok second ∧
        first.withoutBuild = second.withoutBuild ∧
        ∃ rest,
          first.releaseNotes = "# A\n1.5.0-pr7+abc".toList ++ '\n' :: rest ∧
            second.releaseNotes = "# Release 1.5.0".toList ++ '\n' :: rest := by
  have htags : ∀ title title', (featureBuild true title).settings.tagPrefix =
      (featureBuild false title').settings.tagPrefix := fun _ _ => rfl
  obtain ⟨first, hfirst, hversion⟩ : ∃ first,
      resolve (featureBuild true ("A\n".toList ++ placeholder)) = .ok first ∧
        first.finalVersion = "1.5.0-pr7+abc".toList := ⟨_, rfl, rfl⟩
  obtain ⟨second, hsecond, hversion'⟩ : ∃ second,
      resolve (featureBuild false Notes.defaultTitle) = .ok second ∧
        second.finalVersion = "1.5.0".toList := ⟨_, rfl, rfl⟩
  obtain ⟨hsame, _, _, ⟨rest, rest', hnotes, hnotes', hrest⟩, _⟩ :=
    resolve_independent (htags _ _) hfirst hsecond
  obtain rfl := hrest (.inl rfl)
  rw [hversion] at hnotes
  rw [hversion'] at hnotes'
  exact ⟨first, second, hfirst, hsecond, hsame, rest, hnotes, hnotes'⟩

end NextRelease
