import Spreadsheet.Grid.Block
import Spreadsheet.Grid.Recalculation

/-!
# What a grid shows

A grid is a source of texts for recalculation.  Each of its cells has a value,
which is the result of its formula, the number in its literal text, or zero when
it is empty, and a display text.
-/

namespace Spreadsheet.Grid

/-- The grid's texts and extents. -/
def source (grid : Grid) : Source where
  rows := grid.rows.count
  columns := grid.columns.count
  text := grid.text

/-- The answer to a reference while a guard holds the cells under evaluation,
and the guard afterwards. -/
def resolve (grid : Grid) (functions : Registry) (guard : Guard) (name : Text) :
    Except Escape CellValue × Guard :=
  (grid.source.resolve functions Nesting.cellAllowance name).run guard

/-- The value of a cell with the given functions. -/
def evaluateWith (grid : Grid) (functions : Registry) (c : Coord) :
    Except Escape CellValue :=
  grid.source.evaluateCell functions Nesting.cellAllowance c

/-- What a cell shows with the given functions. -/
def displayWith (grid : Grid) (functions : Registry) (c : Coord) :
    Except Escape Text :=
  grid.source.display functions Nesting.cellAllowance c

/-- The value of a cell. -/
def evaluate (grid : Grid) (c : Coord) : Except Escape CellValue :=
  grid.evaluateWith grid.functions c

/-- What a cell shows. -/
def display (grid : Grid) (c : Coord) : Except Escape Text :=
  grid.displayWith grid.functions c

/-- The stored texts of a block. -/
def blockTexts (grid : Grid) (coords : List (List Coord)) : List (List Text) :=
  coords.map fun row => row.map grid.text

/-- The display texts of a block. -/
def blockDisplays (grid : Grid) (coords : List (List Coord)) :
    Except Escape (List (List Text)) :=
  coords.mapM fun row => row.mapM grid.display

/-- The grid with one more host function, unless its name is refused. -/
def register? (grid : Grid) (name : Text) (body : FunctionBody) : Option Grid :=
  (grid.functions.register? name body).map fun functions =>
    { grid with functions := functions }

/-- The size of the grid and the number of its cells. -/
def description (grid : Grid) : String :=
  "<Grid " ++ toString grid.rows.count ++ "x" ++ toString grid.columns.count ++
    " cells=" ++ toString grid.cells.size ++ ">"

end Spreadsheet.Grid
