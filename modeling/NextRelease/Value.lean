import NextRelease.Text.Basic

/-!
# Values

A value of unknown kind, as a settings table or the field of a log event holds it. Points in time
and fractions keep their spelling: nothing here computes with them.
-/

namespace NextRelease

/-- A value of unknown kind. -/
inductive Value
  | null
  | boolean (truth : Bool)
  | integer (number : Int)
  | fraction (spelling : Text)
  | text (content : Text)
  | date (spelling : Text)
  | time (spelling : Text)
  | moment (spelling : Text)
  | array (items : List Value)
  | table (entries : List (Text × Value))

instance : Inhabited Value := ⟨.null⟩

inductive Kind
  | null | boolean | integer | fraction | text | date | time | moment | array | table
  deriving DecidableEq, Repr

namespace Kind

def name : Kind → Text
  | null => "NoneType".toList
  | boolean => "bool".toList
  | integer => "int".toList
  | fraction => "float".toList
  | text => "str".toList
  | date => "date".toList
  | time => "time".toList
  | moment => "datetime".toList
  | array => "list".toList
  | table => "dict".toList

/-- The name of a kind with the module it belongs to. -/
def qualifiedName : Kind → Text
  | date => "datetime.date".toList
  | time => "datetime.time".toList
  | moment => "datetime.datetime".toList
  | kind => kind.name

end Kind

namespace Value

/-- The value affirms something: it is no absence, no denial, no zero and not empty. -/
def affirms : Value → Bool
  | null => false
  | boolean truth => truth
  | integer number => number ≠ 0
  | fraction spelling => (spelling.takeWhile (· ≠ 'e')).any fun c => '1' ≤ c && c ≤ '9'
  | text content => !content.isEmpty
  | array items => !items.isEmpty
  | table entries => !entries.isEmpty
  | date _ => true
  | time _ => true
  | moment _ => true

def kind : Value → Kind
  | null => .null
  | boolean _ => .boolean
  | integer _ => .integer
  | fraction _ => .fraction
  | text _ => .text
  | date _ => .date
  | time _ => .time
  | moment _ => .moment
  | array _ => .array
  | table _ => .table

mutual

/-- The values are of one kind and agree in every part. -/
def same : Value → Value → Bool
  | null, null => true
  | boolean a, boolean b => a = b
  | integer a, integer b => a = b
  | fraction a, fraction b => a = b
  | text a, text b => a = b
  | date a, date b => a = b
  | time a, time b => a = b
  | moment a, moment b => a = b
  | array a, array b => sameItems a b
  | table a, table b => sameEntries a b
  | _, _ => false

def sameItems : List Value → List Value → Bool
  | [], [] => true
  | a :: first, b :: second => a.same b && sameItems first second
  | _, _ => false

def sameEntries : List (Text × Value) → List (Text × Value) → Bool
  | [], [] => true
  | (k, a) :: first, (l, b) :: second => k = l && a.same b && sameEntries first second
  | _, _ => false

end

mutual

theorem same_iff (first second : Value) : first.same second = true ↔ first = second := by
  cases first with
  | array items =>
    cases second with
    | array others => rw [same, sameItems_iff items others, array.injEq]
    | _ => simp [same]
  | table entries =>
    cases second with
    | table others => rw [same, sameEntries_iff entries others, table.injEq]
    | _ => simp [same]
  | _ => cases second <;> simp [same]

theorem sameItems_iff (first second : List Value) :
    sameItems first second = true ↔ first = second := by
  cases first with
  | nil => cases second <;> simp [sameItems]
  | cons item rest =>
    cases second with
    | nil => simp [sameItems]
    | cons other others =>
      rw [sameItems, Bool.and_eq_true, same_iff item other, sameItems_iff rest others,
        List.cons.injEq]

theorem sameEntries_iff (first second : List (Text × Value)) :
    sameEntries first second = true ↔ first = second := by
  cases first with
  | nil => cases second <;> simp [sameEntries]
  | cons entry rest =>
    cases second with
    | nil => simp [sameEntries]
    | cons other others =>
      rw [sameEntries, Bool.and_eq_true, Bool.and_eq_true, decide_eq_true_eq,
        same_iff entry.2 other.2, sameEntries_iff rest others, List.cons.injEq, Prod.ext_iff]

end

instance : DecidableEq Value := fun first second => decidable_of_iff _ (same_iff first second)

end Value

/-- The value under a key of a table; the first one counts. -/
def entry? (key : Text) (entries : List (Text × Value)) : Option Value := entries.lookup key

end NextRelease
