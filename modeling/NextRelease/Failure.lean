import NextRelease.Text.Numeral
import NextRelease.Text.Quoted
import NextRelease.Text.Utf8
import NextRelease.Value

/-!
# Failures

Every reason why an operation gives no answer is a constructor of `Failure`, with what the message
needs to know. The failures of the domain are diagnosed: they carry a stable code, say what is
wrong, and may hint at the mend. The others are refusals of a number, a name or a file.
-/

namespace NextRelease

open Text

/-- Stable identifiers of diagnosed failures. -/
inductive Code
  | configInvalid | configNotFound | contextMalformed | versionTagMalformed
  deriving DecidableEq, Repr

def Code.name : Code → Text
  | configInvalid => "VK-CONFIG-INVALID".toList
  | configNotFound => "VK-CONFIG-NOT-FOUND".toList
  | contextMalformed => "VK-CONTEXT-MALFORMED".toList
  | versionTagMalformed => "VK-VERSION-TAG-MALFORMED".toList

def Code.all : List Code := [configInvalid, configNotFound, contextMalformed, versionTagMalformed]

/-- What an operator is told: a code, what is wrong, and how to mend it (possibly nothing). -/
structure Diagnosis where
  code : Code
  message : Text
  hint : Text := []
  deriving DecidableEq, Repr

/-- The code in brackets and the message; a hint stands on a line of its own. -/
def Diagnosis.render (d : Diagnosis) : Text :=
  let head := '[' :: d.code.name ++ "] ".toList ++ d.message
  if d.hint = [] then head else head ++ "\n  hint: ".toList ++ d.hint

/-- The closed sets of names that an input may be checked against. -/
inductive Vocabulary
  | category | increment | scenario | code
  deriving DecidableEq, Repr

/-- What a message calls a set of names. -/
def Vocabulary.label : Vocabulary → Text
  | category => "CommitCategory".toList
  | increment => "BumpType".toList
  | scenario => "Scenario".toList
  | code => "ErrorCode".toList

/-- Why an operation gives no answer. -/
inductive Failure
  /-- A pull request build without an identifier has no version suffix. -/
  | missingPullRequestId
  /-- The count of commits in the environment is no number. -/
  | commitCountNotNumber (found : Text)
  /-- A settings table has keys that mean nothing. -/
  | unknownKeys (keys : List Text)
  | notText (key : Text) (found : Kind)
  | notBoolean (key : Text) (found : Kind)
  | blankDefaultBranch
  | missingPlaceholder
  | syntaxError (path : Text)
  /-- The section of a project file that should hold the settings is no table. -/
  | sectionNotTable
  | rootNotDirectory (path : Text)
  /-- The table of tools of a project file is no table. -/
  | toolsNotTable (found : Kind)
  | undecodable (fault : DecodeFault)
  | negativeComponent (major minor patch : Int)
  | negativeCount
  | negativeCommitCount (found : Int)
  | unknownName (vocabulary : Vocabulary) (found : Text)
  /-- A numeral to be read has more digits than are allowed. -/
  | numeralTooLong (digits : Nat)
  /-- A number to be written has more digits than are allowed. -/
  | numberTooLong
  deriving DecidableEq, Repr

/-- The hole in a notes title that takes the version. -/
def placeholder : Text := "\x7bversion\x7d".toList

/-- The keys of a settings table, in the order in which messages list them. -/
def settingKeys : List Text :=
  ["default_branch".toList, "notes_title".toList, "section_emoji".toList, "tag_prefix".toList]

namespace Failure

def diagnosis? : Failure → Option Diagnosis
  | missingPullRequestId => some
    ⟨.contextMalformed, "Pull request build is missing its pull request identifier".toList,
      "Pass the PR number (e.g. PR_NUMBER=42) for pull request builds.".toList⟩
  | commitCountNotNumber found => some
    ⟨.contextMalformed,
      "COMMIT_COUNT must be a non-negative integer, got ".toList ++ quoted found, []⟩
  | unknownKeys keys => some
    ⟨.configInvalid,
      "Unknown key(s) in versionkit config: ".toList ++ join ", ".toList keys,
      "Allowed keys: ".toList ++ join ", ".toList settingKeys⟩
  | notText key found => some
    ⟨.configInvalid, key ++ " must be a string, got ".toList ++ found.name, []⟩
  | notBoolean key found => some
    ⟨.configInvalid, key ++ " must be a boolean, got ".toList ++ found.name, []⟩
  | blankDefaultBranch => some ⟨.configInvalid, "default_branch must not be empty".toList, []⟩
  | missingPlaceholder => some
    ⟨.configInvalid,
      "notes_title must contain the ".toList ++ placeholder ++ " placeholder".toList,
      "e.g. notes_title = \"Release ".toList ++ placeholder ++ "\"".toList⟩
  | syntaxError path => some ⟨.configInvalid, "Cannot parse ".toList ++ path, []⟩
  | sectionNotTable => some ⟨.configInvalid, "[tool.versionkit] must be a table".toList, []⟩
  | rootNotDirectory path => some
    ⟨.configNotFound,
      "Repository root ".toList ++ path ++ " is not a directory".toList, []⟩
  | _ => none

/-- The position of faulty octets: one octet is shown, of several the first and last place. -/
def faultPlace (fault : DecodeFault) : Text :=
  match fault.octets with
  | [octet] =>
    "byte 0x".toList ++ hexDigits 2 octet ++ " in position ".toList ++ decimal fault.position
  | octets =>
    "bytes in position ".toList ++ decimal fault.position ++ "-".toList ++
      decimal (fault.position + octets.length - 1)

def faultReason : DecodeReason → Text
  | .invalidStart => "invalid start byte".toList
  | .invalidContinuation => "invalid continuation byte".toList
  | .unexpectedEnd => "unexpected end of data".toList

def plainMessage : Failure → Text
  | toolsNotTable found =>
    "'".toList ++ found.qualifiedName ++ "' object has no attribute 'get'".toList
  | undecodable fault =>
    "'utf-8' codec can't decode ".toList ++ faultPlace fault ++ ": ".toList ++
      faultReason fault.reason
  | negativeComponent major minor patch =>
    "Version components must be non-negative: ".toList ++ signedDecimal major ++ ".".toList ++
      signedDecimal minor ++ ".".toList ++ signedDecimal patch
  | negativeCount => "Commit counts must be non-negative".toList
  | negativeCommitCount found => "commit_count must be >= 0, got ".toList ++ signedDecimal found
  | unknownName vocabulary found =>
    quoted found ++ " is not a valid ".toList ++ vocabulary.label
  | numeralTooLong digits =>
    "Exceeds the limit (4300 digits) for integer string conversion: value has ".toList ++
      decimal digits ++ " digits; use sys.set_int_max_str_digits() to increase the limit".toList
  | numberTooLong =>
    "Exceeds the limit (4300 digits) for integer string conversion; ".toList ++
      "use sys.set_int_max_str_digits() to increase the limit".toList
  | _ => []

def message (failure : Failure) : Text :=
  match failure.diagnosis? with
  | some diagnosis => diagnosis.render
  | none => failure.plainMessage

end Failure

/-- The decimal digits of a number, or a failure if there are too many. -/
def writeNumber (n : Nat) : Except Failure Text :=
  match numeral? n with
  | some digits => .ok digits
  | none => .error .numberTooLong

def writeInteger (n : Int) : Except Failure Text :=
  match signedNumeral? n with
  | some digits => .ok digits
  | none => .error .numberTooLong

def readNumber (digits : Text) : Except Failure Nat :=
  match readNumeral? digits with
  | some value => .ok value
  | none => .error (.numeralTooLong digits.length)

def memberOfName {α : Type} (vocabulary : Vocabulary) (members : List α) (nameOf : α → Text)
    (name : Text) : Except Failure α :=
  match members.find? (nameOf · == name) with
  | some member => .ok member
  | none => .error (.unknownName vocabulary name)

def Code.ofName : Text → Except Failure Code := memberOfName .code Code.all Code.name

end NextRelease
