import Spreadsheet.Function.Registry
import Spreadsheet.Grid.Extent
import Spreadsheet.Number.Shortest

/-!
# Grids

A grid stores texts at coordinates and tracks the extents of its rows and
columns.  Writing a cell first extends the grid to include it.  Inserting and
removing rows and columns moves the stored texts; formulas are not rewritten, so
a reference keeps naming the same coordinate.
-/

namespace Spreadsheet

/-- Why a grid refuses an operation. -/
inductive GridError where
  /-- A cell with a negative coordinate was to be written. -/
  | negativeCell (c : Coord)
  /-- A row or column that the grid does not have was to be removed. -/
  | outside (axis : Axis) (index : Int) (count : Nat)
  /-- A key is no reference. -/
  | address (fault : AddressError)
  /-- A whole number with more digits than are written was to be stored. -/
  | wholeTooLong
  /-- A grid was to have more rows or columns than can be counted. -/
  | notCount
  deriving DecidableEq

/-- What is said of a row or column that the grid does not have. -/
def Axis.outsideMessage (index : Text) (count : Nat) : Axis → String
  | .row =>
      "Row " ++ String.ofList index ++ " is outside the grid (" ++ toString count ++ " rows)"
  | .column =>
      "Column " ++ String.ofList index ++ " is outside the grid (" ++ toString count ++
        " columns)"

/-- The wording of a refusal.  There is none where a number has too many digits,
be it the fault itself or part of the wording. -/
def GridError.message? : GridError → Option String
  | .negativeCell c =>
      c.description?.map fun place =>
        "Cell coordinates must be non-negative: " ++ String.ofList place
  | .outside axis index count =>
      (Text.ofInt? index).map fun digits => axis.outsideMessage digits count
  | .address fault => fault.message?
  | .wholeTooLong => none
  | .notCount => some "cannot fit 'int' into an index-sized integer"

/-- A value that a host program puts into a cell. -/
inductive HostValue where
  | text (content : Text)
  | truth (holds : Bool)
  | whole (value : Int)
  | number (value : Number)
  deriving DecidableEq

/-- The text that a value is stored as, unless it is a whole number with too
many digits. -/
def HostValue.stored? : HostValue → Option Text
  | .text content => some content
  | .truth holds => some (if holds then "True".toList else "False".toList)
  | .whole value => Text.ofInt? value
  | .number value => some value.toText

/-- Texts at coordinates, the extents of the rows and columns, the row that the
next appended row will be, and the functions that formulas can call. -/
structure Grid where
  cells : CoordMap Text
  rows : Extent
  columns : Extent
  appendRow : Nat
  functions : Registry

namespace Grid

/-- How many rows a grid has unless told otherwise. -/
def initialRows : Int := 8

/-- How many columns a grid has unless told otherwise. -/
def initialColumns : Int := 8

/-- How wide a column is unless told otherwise. -/
def defaultWidth : Int := 16

/-- How high a row is unless told otherwise. -/
def defaultHeight : Int := 1

/-- No column is made narrower than this. -/
def leastWidth : Int := 4

/-- No row is made lower than this. -/
def leastHeight : Int := 1

/-- A grid without texts. -/
def new (rows columns width height : Int) : Grid where
  cells := .empty
  rows := .new rows height
  columns := .new columns width
  appendRow := 0
  functions := .builtins

/-- A grid without texts, unless a count of its rows or columns is refused. -/
def ofCounts (rows columns width height : Int) : Except GridError Grid :=
  if Extent.isCount rows && Extent.isCount columns then
    .ok (new rows columns width height)
  else .error .notCount

instance : Inhabited Grid :=
  ⟨new initialRows initialColumns defaultWidth defaultHeight⟩

/-! ## Extents -/

/-- The extent along an axis. -/
def extent (grid : Grid) : Axis → Extent
  | .row => grid.rows
  | .column => grid.columns

/-- The grid with another extent along an axis. -/
def withExtent (grid : Grid) (extent : Extent) : Axis → Grid
  | .row => { grid with rows := extent }
  | .column => { grid with columns := extent }

/-- The grid with so many rows or columns that there is one at `index`. -/
def including (grid : Grid) (axis : Axis) (index : Int) : Grid :=
  grid.withExtent ((grid.extent axis).including index) axis

/-- The least size along an axis. -/
def leastSize : Axis → Int
  | .row => leastHeight
  | .column => leastWidth

/-- The grid with all its rows or columns of one size, unless that is too
small. -/
def resizeAll (grid : Grid) (axis : Axis) (size : Int) : Grid :=
  grid.withExtent ((grid.extent axis).resized (leastSize axis) size) axis

/-! ## Cells -/

/-- The text of a cell, empty if none is stored. -/
def text (grid : Grid) (c : Coord) : Text :=
  (grid.cells.get? c).getD []

/-- Whether a text is stored for a cell. -/
def hasCell (grid : Grid) (c : Coord) : Bool :=
  grid.cells.contains c

/-- Store a text, after extending the grid to include its cell. -/
def setCell (grid : Grid) (c : Coord) (text : Text) : Except GridError Grid :=
  if c.row < 0 || c.col < 0 then .error (.negativeCell c)
  else
    let extended := (grid.including .row c.row).including .column c.col
    .ok { extended with cells := extended.cells.insert c text }

/-- Forget the text of a cell. -/
def clearCell (grid : Grid) (c : Coord) : Grid :=
  { grid with cells := grid.cells.erase c }

/-- Store a value as a text. -/
def put (grid : Grid) (c : Coord) (value : HostValue) : Except GridError Grid :=
  match value.stored? with
  | some text => grid.setCell c text
  | none => .error .wholeTooLong

/-- The text of a cell after a value, if one is given, has been stored there. -/
def access (grid : Grid) (c : Coord) (value : Option HostValue) :
    Except GridError (Grid × Text) := do
  let written ← match value with
    | some value => grid.put c value
    | none => pure grid
  pure (written, written.text c)

/-- The coordinate that a key names. -/
def coordOf (key : Text) : Except GridError Coord :=
  (Coord.ofName key).mapError .address

/-- The text of the cell that a key names. -/
def getKey (grid : Grid) (key : Text) : Except GridError Text :=
  grid.text <$> coordOf key

/-- Whether a text is stored for the cell that a key names. -/
def hasKey (grid : Grid) (key : Text) : Except GridError Bool :=
  grid.hasCell <$> coordOf key

/-- Store a value in the cell that a key names, or clear it if there is none. -/
def setKey (grid : Grid) (key : Text) (value : Option HostValue) :
    Except GridError Grid := do
  let c ← coordOf key
  match value with
  | some value => grid.put c value
  | none => pure (grid.clearCell c)

/-! ## Rows and columns -/

/-- Insert an empty row or column before the one at `index`, which is moved to
the nearest end if it lies outside. -/
def insertAt (grid : Grid) (axis : Axis) (index : Int) : Grid :=
  let extent := grid.extent axis
  let place := min index.toNat extent.count
  let widened := grid.withExtent (extent.insertAt place) axis
  { widened with cells := grid.cells.rekey fun c => some (c.shiftedUp axis place) }

/-- Remove the row or column at `index` with its cells. -/
def removeAt (grid : Grid) (axis : Axis) (index : Int) : Except GridError Grid :=
  let extent := grid.extent axis
  if index < 0 || (extent.count : Int) ≤ index then
    .error (.outside axis index extent.count)
  else
    let narrowed := grid.withExtent (extent.eraseAt index.toNat) axis
    .ok { narrowed with cells := grid.cells.rekey fun c => c.shiftedDown? axis index }

end Grid

end Spreadsheet
