import NextRelease.Layout.Paragraph

/-!
# Tables in columns

A table has a header and rows of cells. A column is as wide as its widest cell line; columns are
separated by a line with a blank on both sides, and the header is underlined. When the table would
be wider than the console, the widest columns shrink first, and the cells are wrapped. A column
may become too narrow for any text; still a row has one line at least.
-/

namespace NextRelease.Layout

open Text

/-- A quotient rounded to the nearest integer, a half to the even neighbour. -/
def roundDiv (numerator denominator : Nat) : Nat :=
  let quotient := numerator / denominator
  let twice := 2 * (numerator % denominator)
  if twice < denominator ∨ (twice = denominator ∧ quotient % 2 = 0) then quotient else quotient + 1

/--
Takes `total` from the values that may shrink, in equal shares from the left and at most `most`
from each.
-/
def reduceFrom (most : Nat) : Nat → Nat → List (Nat × Bool) → List Nat
  | _, _, [] => []
  | total, shares, (value, shrinks) :: rest =>
    if shrinks ∧ 0 < shares then
      let taken := min most (roundDiv total shares)
      (value - taken) :: reduceFrom most (total - taken) (shares - 1) rest
    else value :: reduceFrom most total shares rest

/-- Takes `total` from the values that may shrink, at most `most` from each. -/
def reduce (most total : Nat) (values : List (Nat × Bool)) : List Nat :=
  reduceFrom most total (values.countP (·.2)) values

/-- The greatest of some widths, zero if there are none. -/
def widest (widths : List Nat) : Nat := widths.foldl max 0

def total (widths : List Nat) : Nat := widths.foldl (· + ·) 0

/-- The widest columns shrink towards the next widest until the widths fit; `fuel` bounds this. -/
def shrink (limit : Nat) : Nat → List Nat → List Nat
  | 0, widths => widths
  | fuel + 1, widths =>
    let excess := total widths - limit
    if excess = 0 then widths
    else
      let first := widest widths
      let second := widest (widths.filter (· ≠ first))
      if first = second then widths
      else
        shrink limit fuel
          (reduce (min excess (first - second)) excess (widths.map fun w => (w, w == first)))

/-- A cell with the number of blanks on its left and right. -/
structure Cell where
  text : Text
  left : Nat
  right : Nat

/-- The width that a cell asks for when `limit` cells are available. -/
def Cell.width (limit : Nat) (cell : Cell) : Nat :=
  min limit (naturalWidth cell.text + cell.left + cell.right)

/-- The lines of a cell in a column; there are none if the blanks leave no room for its text. -/
def Cell.lines (width : Nat) (cell : Cell) : List Text :=
  (paragraph .ellipsis .left (width - cell.left - cell.right) cell.text).map fun line =>
    List.replicate cell.left ' ' ++ line ++ List.replicate cell.right ' '

/-- The width that a column asks for when `limit` cells are available. -/
def columnWidth (limit : Nat) (column : List Cell) : Nat := widest (column.map (Cell.width limit))

/-- The width of each column when `limit` cells are available for all. -/
def columnWidths (limit : Nat) (columns : List (List Cell)) : List Nat :=
  let widths := columns.map fun column => max 1 (columnWidth limit column)
  if total widths ≤ limit then widths
  else (shrink limit (total widths) widths).zipWith columnWidth columns

/-- A row of two cells, line by line; the shorter cell is filled up with blank lines. -/
def rowLines (separator : Char) (widths : Nat × Nat) (row : Cell × Cell) : List Text :=
  let left := row.1.lines widths.1
  let right := row.2.lines widths.2
  let height := max 1 (max left.length right.length)
  let fill (width : Nat) (lines : List Text) :=
    lines ++ List.replicate (height - lines.length) (List.replicate width ' ')
  (fill widths.1 left).zipWith (fun l r => l ++ separator :: r) (fill widths.2 right)

/-- A table of two columns under a title, on a console of the given width. -/
def table (console : Nat) (title : Text) (header : Text × Text) (rows : List (Text × Text)) :
    List Text :=
  let cellsOf (row : Text × Text) : Cell × Cell := (⟨row.1, 0, 1⟩, ⟨row.2, 1, 0⟩)
  let all := (header :: rows).map cellsOf
  match console, columnWidths (console - 1) [all.map (·.1), all.map (·.2)] with
  | _ + 1, [first, second] =>
    let rule := List.replicate first '━' ++ '╇' :: List.replicate second '━'
    paragraph .fold .center (first + 1 + second) title ++
      rowLines '┃' (first, second) (cellsOf header) ++ rule ::
      rows.flatMap fun row => rowLines '│' (first, second) (cellsOf row)
  | _, _ => []

end NextRelease.Layout
