import NextRelease.Text.Blank
import NextRelease.Text.LowerCase

/-!
# Console markup

In console markup a word in brackets is a tag and a name between colons may stand for a sign. A
text to be shown is escaped first. Showing takes the tags away, halves the backslashes in front of
tags, and puts signs for their names. An escaped text shows as it was written, with two
exceptions that come from backslashes outside tags: one at the end is doubled, and one in front of
a bracket that opens no tag disappears.
-/

namespace NextRelease.Layout

open Text

def opensTag (c : Char) : Bool := ('a' ≤ c && c ≤ 'z') || c == '#' || c == '/' || c == '@'

/-- The tag at the start of a text, with its brackets. -/
def tagAtStart? : Text → Option Text
  | '[' :: c :: rest =>
    let inner := rest.takeWhile fun c => c ≠ '[' && c ≠ ']'
    if opensTag c && (rest.drop inner.length).head? = some ']' then
      some ('[' :: c :: inner ++ [']'])
    else none
  | _ => none

/-- A piece of markup: plain text, or a tag after a number of backslashes. -/
inductive Piece
  | plain (text : Text)
  | tag (backslashes : Nat) (text : Text)
  deriving DecidableEq, Repr

/-- Adds a character in front of the pieces; a backslash in front of a tag belongs to the tag. -/
def addFront (c : Char) : List Piece → List Piece
  | .plain text :: rest => .plain (c :: text) :: rest
  | .tag backslashes text :: rest =>
    if c = '\\' then .tag (backslashes + 1) text :: rest
    else .plain [c] :: .tag backslashes text :: rest
  | [] => [.plain [c]]

/-- The pieces of a text of which the first `covered` characters belong to a tag found before. -/
def piecesFrom : Nat → Text → List Piece
  | _, [] => []
  | covered + 1, _ :: rest => piecesFrom covered rest
  | 0, c :: rest =>
    match tagAtStart? (c :: rest) with
    | some tag => .tag 0 tag :: piecesFrom (tag.length - 1) rest
    | none => addFront c (piecesFrom 0 rest)

def pieces (text : Text) : List Piece := piecesFrom 0 text

/-- A piece as it is escaped: the backslashes before a tag are doubled and one is added. -/
def escapePiece : Piece → Text
  | .plain text => text
  | .tag backslashes text => List.replicate (2 * backslashes + 1) '\\' ++ text

/-- The text as markup that shows it; a single backslash at the end is doubled. -/
def escape (text : Text) : Text :=
  let escaped := (pieces text).flatMap escapePiece
  match escaped.reverse with
  | '\\' :: '\\' :: _ => escaped
  | '\\' :: _ => escaped ++ ['\\']
  | _ => escaped

/-- The signs that have a name of one or two characters. -/
def signs : List (Text × Text) := [
  ("om".toList, ['🕉']), ("ox".toList, ['🐂']), ("m".toList, ['Ⓜ']), ("x".toList, ['❌']),
  ("o".toList, ['⭕']), ("ab".toList, ['🆎']), ("a".toList, ['🅰']), ("b".toList, ['🅱']),
  ("o2".toList, ['🅾']), ("on".toList, ['🔛']), ("cd".toList, ['💿']), ("cl".toList, ['🆑']),
  ("id".toList, ['🆔']), ("sa".toList, ['🈂']), ("ng".toList, ['🆖']), ("ok".toList, ['🆗']),
  ("up".toList, ['🆙']), ("vs".toList, ['🆚']), ("tv".toList, ['📺']), ("+1".toList, ['👍']),
  ("-1".toList, ['👎']), ("tm".toList, ['™']), ("v".toList, ['✌']), ("wc".toList, ['🚾'])]

/-- The ways a sign may be asked to look, each with the selector that follows the sign. -/
def variants : List (Text × Text) :=
  [("-text".toList, ['\ufe0e']), ("-emoji".toList, ['\ufe0f'])]

/-- What stands for a name between colons. -/
def signOf? (name : Text) : Option Text :=
  let (name, selector) := match variants.find? fun variant => variant.1.isSuffixOf name with
    | some (ending, selector) => (name.take (name.length - ending.length), selector)
    | none => (name, [])
  (signs.lookup (lowerCase name)).map (· ++ selector)

/--
Puts signs for their names. A name reaches from a colon to the next one and holds no blank; the
closing colon of a name that stands for nothing opens no other name. `covered` characters still
belong to the name found last.
-/
def putSignsFrom : Nat → Text → Text
  | _, [] => []
  | covered + 1, _ :: rest => putSignsFrom covered rest
  | 0, c :: rest =>
    let name := rest.takeWhile fun c => c ≠ ':' && !isBlank c
    if c = ':' ∧ (rest.drop name.length).head? = some ':' then
      (signOf? name).getD (':' :: name ++ [':']) ++ putSignsFrom (name.length + 1) rest
    else c :: putSignsFrom 0 rest

/-- A plain piece as it shows: a backslash before a bracket disappears, and signs are put. -/
def showPlain (text : Text) : Text := putSignsFrom 0 (replace ['\\', '['] ['['] text)

/-- A piece as it shows: of a tag only half of the backslashes, and the tag if one is left over. -/
def showPiece : Piece → Text
  | .plain text => showPlain text
  | .tag backslashes text =>
    List.replicate (backslashes / 2) '\\' ++ if backslashes % 2 = 1 then showPlain text else []

def shown (markup : Text) : Text := (pieces markup).flatMap showPiece

end NextRelease.Layout
