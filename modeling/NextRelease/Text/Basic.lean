/-!
# Texts

Every rule of this library reads a text from the left, one character at a time, so a text is
the list of its characters. A separator splits a text into one piece more than it has separators,
and `join` undoes that. Lines are the pieces between newlines.
-/

namespace NextRelease

/-- A text is the list of its characters. -/
abbrev Text := List Char

namespace Text

/-- The pieces between separators; there is always at least one. -/
def split (isSeparator : Char → Bool) : Text → List Text
  | [] => [[]]
  | c :: rest =>
    if isSeparator c then [] :: split isSeparator rest
    else (split isSeparator rest).modifyHead (c :: ·)

def lines (text : Text) : List Text := split (· = '\n') text

/-- The lines of a text in which every line ends in a newline; the last one may lack it. -/
def closedLines (text : Text) : List Text :=
  let pieces := lines text
  if pieces.getLast? = some [] then pieces.dropLast else pieces

/-- The pieces in order, with `separator` between neighbours. -/
def join (separator : Text) : List Text → Text
  | [] => []
  | [piece] => piece
  | piece :: pieces => piece ++ separator ++ join separator pieces

def joinLines (pieces : List Text) : Text := join ['\n'] pieces

def firstLine (text : Text) : Text := text.takeWhile (· ≠ '\n')

def dropLastNewlines (text : Text) : Text := (text.reverse.dropWhile (· = '\n')).reverse

/-- `start` is taken off once if the text begins with it. -/
def dropStart (start text : Text) : Text :=
  if start.isPrefixOf text then text.drop start.length else text

/-- What stands between `start` and `ending`, which the text must begin and end with. -/
def between? (start ending text : Text) : Option Text :=
  let inner := text.drop start.length
  if start.isPrefixOf text && ending.isSuffixOf inner then
    some (inner.take (inner.length - ending.length))
  else none

def occursIn (word : Text) : Text → Bool
  | [] => word.isEmpty
  | c :: rest => word.isPrefixOf (c :: rest) || occursIn word rest

/--
Puts `new` for every occurrence of `old`, found from the left and without overlap. The counter is
the number of characters that still belong to the occurrence replaced last.
-/
def replaceFrom (old new : Text) : Nat → Text → Text
  | _, [] => []
  | covered + 1, _ :: rest => replaceFrom old new covered rest
  | 0, c :: rest =>
    if old.isPrefixOf (c :: rest) then new ++ replaceFrom old new (old.length - 1) rest
    else c :: replaceFrom old new 0 rest

def replace (old new text : Text) : Text := replaceFrom old new 0 text

/-- Blanks are added on the right until the text has `width` characters. -/
def padRight (width : Nat) (text : Text) : Text :=
  text ++ List.replicate (width - text.length) ' '

/-- Code point order, letter by letter: the order in which keys are listed. -/
def precedes (a b : Text) : Bool :=
  match a, b with
  | [], _ => true
  | _ :: _, [] => false
  | x :: xs, y :: ys => if x = y then precedes xs ys else x.toNat < y.toNat

end Text

end NextRelease
