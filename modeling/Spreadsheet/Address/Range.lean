import Spreadsheet.Address.Coord

/-!
# Ranges

A range is written as two references with a colon between them and stands for
the rectangle that has the two cells as opposite corners.  The corners may come
in any order.
-/

namespace Spreadsheet

/-- A rectangle of cells, with its first and last row and column. -/
structure Range where
  top : Nat
  left : Nat
  bottom : Nat
  right : Nat
  top_le_bottom : top ≤ bottom := by omega
  left_le_right : left ≤ right := by omega
  deriving DecidableEq

namespace Range

/-- The rectangle between two cells. -/
def between (first second : Coord) : Range where
  top := min first.row.toNat second.row.toNat
  left := min first.col.toNat second.col.toNat
  bottom := max first.row.toNat second.row.toNat
  right := max first.col.toNat second.col.toNat

/-- The range that a text writes: both sides of its first colon name a cell.
The left side is read first. -/
def ofText? (t : Text) : Except AddressError (Option Range) :=
  match Text.splitFirst ':' t with
  | none => .ok none
  | some (left, right) => do
      let first ← Coord.decode left
      let second ← Coord.decode right
      match first, second with
      | some a, some b => pure (some (between a b))
      | _, _ => pure none

/-- The number of rows. -/
def height (range : Range) : Nat :=
  range.bottom - range.top + 1

/-- The number of columns. -/
def width (range : Range) : Nat :=
  range.right - range.left + 1

/-- The cells of one row from a column on. -/
def rowCells (row : Nat) : Nat → Nat → List (Nat × Nat)
  | _, 0 => []
  | column, count + 1 => (row, column) :: rowCells row (column + 1) count

/-- The cells of all rows from a row on. -/
def cellsFrom (range : Range) : Nat → Nat → List (Nat × Nat)
  | _, 0 => []
  | row, count + 1 =>
      rowCells row range.left range.width ++ range.cellsFrom (row + 1) count

/-- The cells of a range, row by row. -/
def cells (range : Range) : List (Nat × Nat) :=
  range.cellsFrom range.top range.height

end Range

end Spreadsheet
