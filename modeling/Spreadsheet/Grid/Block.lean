import Spreadsheet.Grid.Basic

/-!
# Writing and reading blocks

A block of values is written cell by cell, row by row; a value that is missing
leaves its cell alone.  Writing ends at the first cell that is refused, and what
has been written before stays.
-/

namespace Spreadsheet.Grid

/-- Carry out writes in order up to the first that is refused. -/
def writeAll (grid : Grid) : List (Coord × HostValue) → Grid × Option GridError
  | [] => (grid, none)
  | (c, value) :: rest =>
      match grid.put c value with
      | .ok written => written.writeAll rest
      | .error refusal => (grid, some refusal)

/-- The writes for one row of values from a cell on. -/
def rowWrites (row column : Int) (values : List (Option HostValue)) :
    List (Coord × HostValue) :=
  values.zipIdx.filterMap fun (value, offset) =>
    value.map fun value => (⟨row, column + offset⟩, value)

/-- The writes for rows of values below one another. -/
def blockWrites (row column : Int) (block : List (List (Option HostValue))) :
    List (Coord × HostValue) :=
  block.zipIdx.flatMap fun (values, offset) => rowWrites (row + offset) column values

/-- Write rows of values with the first value of the first row in the given
cell. -/
def writeRows (grid : Grid) (row column : Int)
    (block : List (List (Option HostValue))) : Grid × Option GridError :=
  grid.writeAll (blockWrites row column block)

/-- Write a row of values, from the first column on, into the row below the one
appended last.  Where a write is refused, the next row appended is the same one
again. -/
def append (grid : Grid) (values : List (Option HostValue)) : Grid × Option GridError :=
  match grid.writeAll (rowWrites grid.appendRow 0 values) with
  | (written, none) => ({ written with appendRow := grid.appendRow + 1 }, none)
  | refused => refused

/-- The whole numbers from one to another. -/
def between (first last : Int) : List Int :=
  (List.range (last + 1 - first).toNat).map fun (offset : Nat) => first + offset

/-- The coordinates of a block, row by row.  A last row or column that is left
out is the grid's. -/
def block (grid : Grid) (firstRow : Int) (lastRow : Option Int) (firstColumn : Int)
    (lastColumn : Option Int) : List (List Coord) :=
  let bottom := lastRow.getD ((grid.rows.count : Int) - 1)
  let right := lastColumn.getD ((grid.columns.count : Int) - 1)
  (between firstRow bottom).map fun row =>
    (between firstColumn right).map fun column => ⟨row, column⟩

end Spreadsheet.Grid
