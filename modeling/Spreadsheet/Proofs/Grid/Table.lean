import Mathlib.Data.List.InsertIdx
import Spreadsheet.Proofs.Grid.Operation

/-!
# Dense tables

A table writes out every cell: it is a list of rows, each with a height and as many
cells as there are column widths, and a cell is a text or nothing.  It can do what a
grid can do, in the plainest way: a row is inserted and removed as a whole, a column
in every row, and a write first pads the table with blank rows and columns until it
has the cell.
-/

namespace Spreadsheet

theorem Coord.toNat_of_nonneg {c : Coord} (row : 0 ≤ c.row) (column : 0 ≤ c.col) :
    (⟨c.row.toNat, c.col.toNat⟩ : Coord) = c := by
  rw [Int.toNat_of_nonneg row, Int.toNat_of_nonneg column]

theorem Coord.negative_or_natCast (c : Coord) :
    (c.row < 0 ∨ c.col < 0) ∨ ∃ row column : Nat, c = ⟨row, column⟩ := by
  by_cases negative : c.row < 0 ∨ c.col < 0
  · exact .inl negative
  · exact .inr ⟨c.row.toNat, c.col.toNat, (toNat_of_nonneg (by omega) (by omega)).symm⟩

/-- The height of a row and its cells, from the first column to the last. -/
structure TableRow where
  height : Int
  cells : List (Option Text)

/-- Rows of cells, all as long as there are columns.  Like a grid, a table knows the
sizes of new rows and columns, the row that is appended next and the functions that
formulas can call. -/
structure Table where
  rows : List TableRow
  widths : List Int
  defaultHeight : Int
  defaultWidth : Int
  appendRow : Nat
  functions : Registry
  rectangular : ∀ row ∈ rows, row.cells.length = widths.length

namespace Table

/-- A table without texts. -/
def new (rows columns width height : Int) (functions : Registry) : Table where
  rows := List.replicate rows.toNat ⟨height, List.replicate columns.toNat none⟩
  widths := List.replicate columns.toNat width
  defaultHeight := height
  defaultWidth := width
  appendRow := 0
  functions := functions
  rectangular := by
    intro row member
    rw [List.eq_of_mem_replicate member, List.length_replicate, List.length_replicate]

/-- A new row: of the default height and with nothing in its cells. -/
def blankRow (table : Table) : TableRow :=
  ⟨table.defaultHeight, List.replicate table.widths.length none⟩

theorem length_blankRow (table : Table) :
    table.blankRow.cells.length = table.widths.length :=
  List.length_replicate

/-- The sizes of the rows or columns. -/
def extent (table : Table) : Axis → Extent
  | .row => ⟨table.rows.map TableRow.height, table.defaultHeight⟩
  | .column => ⟨table.widths, table.defaultWidth⟩

/-- The number of rows or columns. -/
def count (table : Table) : Axis → Nat
  | .row => table.rows.length
  | .column => table.widths.length

/-! ## Rows and columns -/

/-- The table with blank rows at its end until it has so many. -/
def padRows (table : Table) (count : Nat) : Table :=
  { table with
    rows := table.rows ++ List.replicate (count - table.rows.length) table.blankRow
    rectangular := by
      intro row member
      rcases List.mem_append.mp member with old | new
      · exact table.rectangular row old
      · rw [List.eq_of_mem_replicate new, length_blankRow] }

/-- The table with empty cells at the end of every row until it has so many columns. -/
def padColumns (table : Table) (count : Nat) : Table :=
  let missing := count - table.widths.length
  { table with
    rows := table.rows.map fun row =>
      { row with cells := row.cells ++ List.replicate missing none }
    widths := table.widths ++ List.replicate missing table.defaultWidth
    rectangular := by
      intro row member
      obtain ⟨old, oldMember, rfl⟩ := List.mem_map.mp member
      simp only [List.length_append, List.length_replicate, table.rectangular old oldMember] }

/-- The table with a blank row before the one at `place`. -/
def insertRow (table : Table) (place : Nat) : Table :=
  { table with
    rows := table.rows.insertIdx place table.blankRow
    rectangular := by
      intro row member
      rcases List.eq_or_mem_of_mem_insertIdx member with rfl | old
      · exact table.length_blankRow
      · exact table.rectangular row old }

/-- The table with an empty cell before the one at `place` in every row. -/
def insertColumn (table : Table) (place : Nat) : Table :=
  { table with
    rows := table.rows.map fun row => { row with cells := row.cells.insertIdx place none }
    widths := table.widths.insertIdx place table.defaultWidth
    rectangular := by
      intro row member
      obtain ⟨old, oldMember, rfl⟩ := List.mem_map.mp member
      simp only [List.length_insertIdx, table.rectangular old oldMember] }

/-- The table without the row at `place`. -/
def eraseRow (table : Table) (place : Nat) : Table :=
  { table with
    rows := table.rows.eraseIdx place
    rectangular := fun row member =>
      table.rectangular row (List.mem_of_mem_eraseIdx member) }

/-- The table without the cell at `place` in every row. -/
def eraseColumn (table : Table) (place : Nat) : Table :=
  { table with
    rows := table.rows.map fun row => { row with cells := row.cells.eraseIdx place }
    widths := table.widths.eraseIdx place
    rectangular := by
      intro row member
      obtain ⟨old, oldMember, rfl⟩ := List.mem_map.mp member
      simp only [List.length_eraseIdx, table.rectangular old oldMember] }

/-- The table with blank rows or columns at its end until it has one at `index`. -/
def including (table : Table) (axis : Axis) (index : Int) : Table :=
  match axis with
  | .row => table.padRows (index + 1).toNat
  | .column => table.padColumns (index + 1).toNat

/-- The table with a blank row or column before the one at `index`, which is moved to
the nearest end if it lies outside. -/
def insertAt (table : Table) (axis : Axis) (index : Int) : Table :=
  let place := (max 0 (min index (table.count axis))).toNat
  match axis with
  | .row => table.insertRow place
  | .column => table.insertColumn place

/-- The table without the row or column at `place`. -/
def eraseAt (table : Table) (axis : Axis) (place : Nat) : Table :=
  match axis with
  | .row => table.eraseRow place
  | .column => table.eraseColumn place

/-- Remove the row or column at `index`, which the table must have. -/
def removeAt (table : Table) (axis : Axis) (index : Int) : Except GridError Table :=
  if 0 ≤ index ∧ index < table.count axis then .ok (table.eraseAt axis index.toNat)
  else .error (.outside axis index (table.count axis))

/-- The table with all its rows or columns of one size, unless that is too small. -/
def resizeAll (table : Table) (axis : Axis) (size : Int) : Table :=
  if size < Grid.leastSize axis then table
  else match axis with
    | .row =>
        { table with
          rows := table.rows.map fun row => { row with height := size }
          rectangular := by
            intro row member
            obtain ⟨old, oldMember, rfl⟩ := List.mem_map.mp member
            exact table.rectangular old oldMember }
    | .column =>
        { table with
          widths := table.widths.map fun _ => size
          rectangular := fun row member =>
            (table.rectangular row member).trans (List.length_map _).symm }

/-! ## Cells -/

/-- The table with a text or nothing in a cell, if it has the cell. -/
def store (table : Table) (row column : Nat) (content : Option Text) : Table :=
  { table with
    rows := table.rows.modify row fun old =>
      { old with cells := old.cells.set column content }
    rectangular := by
      intro changed member
      obtain ⟨place, found⟩ := List.mem_iff_getElem?.mp member
      rw [List.getElem?_modify] at found
      obtain ⟨old, lookup, rfl⟩ := Option.map_eq_some_iff.mp found
      have fits := table.rectangular old (List.mem_of_getElem? lookup)
      split
      · exact List.length_set.trans fits
      · exact fits }

/-- Store a text, after padding the table until it has the cell. -/
def write (table : Table) (c : Coord) (text : Text) : Except GridError Table :=
  if c.row < 0 ∨ c.col < 0 then .error (.negativeCell c)
  else
    let padded := (table.including .row c.row).including .column c.col
    .ok (padded.store c.row.toNat c.col.toNat (some text))

/-- Forget the text of a cell. -/
def clear (table : Table) (c : Coord) : Table :=
  if c.row < 0 ∨ c.col < 0 then table else table.store c.row.toNat c.col.toNat none

/-- Store a value as a text. -/
def put (table : Table) (c : Coord) (value : HostValue) : Except GridError Table :=
  match value.stored? with
  | some text => table.write c text
  | none => .error .wholeTooLong

/-- Store a value if one is given. -/
def access (table : Table) (c : Coord) : Option HostValue → Except GridError Table
  | some value => table.put c value
  | none => .ok table

/-- Store a value in the cell that a key names, or clear it if there is none. -/
def setKey (table : Table) (key : Text) (value : Option HostValue) :
    Except GridError Table := do
  let c ← Grid.coordOf key
  match value with
  | some value => table.put c value
  | none => pure (table.clear c)

/-- Write values beside one another, up to the first that is refused. -/
def writeRow (table : Table) (row column : Int) :
    List (Option HostValue) → Table × Option GridError
  | [] => (table, none)
  | none :: rest => table.writeRow row (column + 1) rest
  | some value :: rest =>
      match table.put ⟨row, column⟩ value with
      | .ok written => written.writeRow row (column + 1) rest
      | .error refusal => (table, some refusal)

/-- Write rows of values below one another, up to the first value that is refused. -/
def writeRows (table : Table) (row column : Int) :
    List (List (Option HostValue)) → Table × Option GridError
  | [] => (table, none)
  | values :: rest =>
      match table.writeRow row column values with
      | (written, none) => written.writeRows (row + 1) column rest
      | refused => refused

/-- Write values into the row that is appended next, and go on to the row below. -/
def append (table : Table) (values : List (Option HostValue)) : Table × Option GridError :=
  match table.writeRow table.appendRow 0 values with
  | (written, none) => ({ written with appendRow := table.appendRow + 1 }, none)
  | refused => refused

/-- The table after an operation, and what the operation was refused for. -/
def perform (table : Table) : Operation → Table × Option GridError
  | .setCell c text => Operation.settle table (table.write c text)
  | .clearCell c => (table.clear c, none)
  | .access c value => Operation.settle table (table.access c value)
  | .setKey key value => Operation.settle table (table.setKey key value)
  | .append values => table.append values
  | .writeRows row column block => table.writeRows row column block
  | .extend axis index => (table.including axis index, none)
  | .resizeAll axis size => (table.resizeAll axis size, none)
  | .insertAt axis index => (table.insertAt axis index, none)
  | .removeAt axis index => Operation.settle table (table.removeAt axis index)

/-! ## Looking at a table -/

/-- What a cell holds; a cell that the table does not have holds nothing. -/
def cell? (table : Table) (c : Coord) : Option Text :=
  if 0 ≤ c.row ∧ 0 ≤ c.col then
    (table.rows[c.row.toNat]?.bind fun row => row.cells[c.col.toNat]?).join
  else none

/-- The text of a cell, empty if there is none. -/
def text (table : Table) (c : Coord) : Text :=
  (table.cell? c).getD []

/-- The texts of all cells. -/
def texts (table : Table) : List (List Text) :=
  table.rows.map fun row => row.cells.map fun content => content.getD []

/-- How many cells hold a text. -/
def size (table : Table) : Nat :=
  (table.rows.flatMap TableRow.cells).countP Option.isSome

/-- The cells of a row that hold a text, with where they are. -/
def rowEntries (place : Nat) (row : TableRow) : List (Coord × Text) :=
  row.cells.zipIdx.filterMap fun (content, column) =>
    content.map fun text => (⟨place, column⟩, text)

/-- The cells that hold a text, with where they are, row by row. -/
def entries (table : Table) : List (Coord × Text) :=
  table.rows.zipIdx.flatMap fun (row, place) => rowEntries place row

/-- The coordinates of a block, row by row.  A last row or column that is left out is
the table's. -/
def block (table : Table) (firstRow : Int) (lastRow : Option Int) (firstColumn : Int)
    (lastColumn : Option Int) : List (List Coord) :=
  let bottom := lastRow.getD ((table.rows.length : Int) - 1)
  let right := lastColumn.getD ((table.widths.length : Int) - 1)
  (Grid.between firstRow bottom).map fun row =>
    (Grid.between firstColumn right).map fun column => ⟨row, column⟩

/-- What formulas that refer to cells of the table see of it. -/
def source (table : Table) : Source where
  rows := table.rows.length
  columns := table.widths.length
  text := table.text

/-- What a cell shows. -/
def display (table : Table) (c : Coord) : Except Escape Text :=
  table.source.display table.functions Nesting.cellAllowance c

/-! ## What an edit leaves in the cells -/

variable {table : Table} {c : Coord}

theorem cell?_of_negative (negative : c.row < 0 ∨ c.col < 0) : table.cell? c = none :=
  if_neg (by omega)

theorem cell?_natCast (table : Table) (row column : Nat) :
    table.cell? ⟨row, column⟩ =
      (table.rows[row]?.bind fun found => found.cells[column]?).join :=
  if_pos ⟨Int.natCast_nonneg row, Int.natCast_nonneg column⟩

theorem bounds_of_cell? {text : Text} (stored : table.cell? c = some text) :
    (0 ≤ c.row ∧ c.row < table.rows.length) ∧ 0 ≤ c.col ∧ c.col < table.widths.length := by
  rcases c.negative_or_natCast with negative | ⟨row, column, rfl⟩
  · rw [cell?_of_negative negative] at stored
    cases stored
  · rw [cell?_natCast, Option.join_eq_some_iff, Option.bind_eq_some_iff] at stored
    obtain ⟨found, lookup, inRow⟩ := stored
    have rowBound := (List.getElem?_eq_some_iff.mp lookup).1
    have columnBound := (List.getElem?_eq_some_iff.mp inRow).1
    rw [table.rectangular found (List.mem_of_getElem? lookup)] at columnBound
    simp only
    omega

theorem join_getElem?_replicate (count column : Nat) :
    (List.replicate count (none : Option Text))[column]?.join = none := by
  rw [List.getElem?_replicate]
  split <;> rfl

theorem cell?_padRows (table : Table) (count : Nat) (c : Coord) :
    (table.padRows count).cell? c = table.cell? c := by
  rcases c.negative_or_natCast with negative | ⟨row, column, rfl⟩
  · rw [cell?_of_negative negative, cell?_of_negative negative]
  · rw [cell?_natCast, cell?_natCast, padRows, List.getElem?_append]
    split
    · rfl
    · next beyond =>
        rw [List.getElem?_eq_none (Nat.not_lt.mp beyond), List.getElem?_replicate]
        split
        · exact join_getElem?_replicate ..
        · rfl

theorem cell?_padColumns (table : Table) (count : Nat) (c : Coord) :
    (table.padColumns count).cell? c = table.cell? c := by
  rcases c.negative_or_natCast with negative | ⟨row, column, rfl⟩
  · rw [cell?_of_negative negative, cell?_of_negative negative]
  · rw [cell?_natCast, cell?_natCast, padColumns, List.getElem?_map]
    cases table.rows[row]? with
    | none => rfl
    | some found =>
        simp only [Option.map_some, Option.bind_some, List.getElem?_append]
        split
        · rfl
        · next beyond =>
            rw [List.getElem?_eq_none (Nat.not_lt.mp beyond), join_getElem?_replicate]
            rfl

theorem cell?_including (table : Table) (axis : Axis) (index : Int) (c : Coord) :
    (table.including axis index).cell? c = table.cell? c := by
  cases axis with
  | row => exact cell?_padRows ..
  | column => exact cell?_padColumns ..

theorem cell?_resizeAll (table : Table) (axis : Axis) (size : Int) (c : Coord) :
    (table.resizeAll axis size).cell? c = table.cell? c := by
  unfold resizeAll
  split
  · rfl
  · cases axis with
    | row =>
        rcases c.negative_or_natCast with negative | ⟨row, column, rfl⟩
        · rw [cell?_of_negative negative, cell?_of_negative negative]
        · rw [cell?_natCast, cell?_natCast, List.getElem?_map]
          cases table.rows[row]? <;> rfl
    | column => rfl

theorem cell?_insertRow (table : Table) (place row column : Nat) :
    (table.insertRow place).cell? ⟨row, column⟩ =
      if row < place then table.cell? ⟨row, column⟩
      else if row = place then none
      else table.cell? ⟨row - 1, column⟩ := by
  rw [cell?_natCast, insertRow, List.getElem?_insertIdx]
  by_cases before : row < place
  · rw [if_pos before, if_pos before, cell?_natCast]
  · rw [if_neg before, if_neg before]
    by_cases there : row = place
    · rw [if_pos there, if_pos there]
      split
      · exact join_getElem?_replicate ..
      · rfl
    · have previous : (row : Int) - 1 = (row - 1 : Nat) := by omega
      rw [if_neg there, if_neg there, previous, cell?_natCast]

theorem cell?_insertColumn (table : Table) (place row column : Nat) :
    (table.insertColumn place).cell? ⟨row, column⟩ =
      if column < place then table.cell? ⟨row, column⟩
      else if column = place then none
      else table.cell? ⟨row, column - 1⟩ := by
  have inRow : (table.insertColumn place).cell? ⟨row, column⟩ =
      (table.rows[row]?.bind fun found => (found.cells.insertIdx place none)[column]?).join := by
    rw [cell?_natCast, insertColumn, List.getElem?_map]
    cases table.rows[row]? <;> rfl
  simp only [inRow, List.getElem?_insertIdx]
  by_cases before : column < place
  · simp only [if_pos before, cell?_natCast]
  · simp only [if_neg before]
    by_cases there : column = place
    · simp only [if_pos there]
      cases table.rows[row]? with
      | none => rfl
      | some found =>
          rw [Option.bind_some]
          split <;> rfl
    · have previous : (column : Int) - 1 = (column - 1 : Nat) := by omega
      simp only [if_neg there, previous, cell?_natCast]

/-- Where a row or column has been inserted there is nothing, and behind it is what was
one before. -/
theorem cell?_insertAt (table : Table) (axis : Axis) (index : Int) (c : Coord) :
    (table.insertAt axis index).cell? c =
      if c.along axis < (min index.toNat (table.count axis) : Nat) then table.cell? c
      else if c.along axis = (min index.toNat (table.count axis) : Nat) then none
      else table.cell? (c.withAlong (c.along axis - 1) axis) := by
  have place : (max 0 (min index (table.count axis))).toNat =
      min index.toNat (table.count axis) := by
    omega
  rcases c.negative_or_natCast with negative | ⟨row, column, rfl⟩
  · rw [cell?_of_negative negative, cell?_of_negative negative]
    split
    · rfl
    · split
      · rfl
      · rw [cell?_of_negative]
        cases axis <;> simp only [Coord.along, Coord.withAlong] at * <;> omega
  · cases axis with
    | row =>
        simp only [insertAt, place, cell?_insertRow, Coord.along, Coord.withAlong,
          Int.ofNat_lt, Int.ofNat_inj]
    | column =>
        simp only [insertAt, place, cell?_insertColumn, Coord.along, Coord.withAlong,
          Int.ofNat_lt, Int.ofNat_inj]

theorem cell?_eraseRow (table : Table) (place row column : Nat) :
    (table.eraseRow place).cell? ⟨row, column⟩ =
      if row < place then table.cell? ⟨row, column⟩
      else table.cell? ⟨(row + 1 : Nat), column⟩ := by
  simp only [cell?_natCast]
  rw [eraseRow, List.getElem?_eraseIdx]
  split <;> rfl

theorem cell?_eraseColumn (table : Table) (place row column : Nat) :
    (table.eraseColumn place).cell? ⟨row, column⟩ =
      if column < place then table.cell? ⟨row, column⟩
      else table.cell? ⟨row, (column + 1 : Nat)⟩ := by
  simp only [cell?_natCast]
  rw [eraseColumn, List.getElem?_map]
  cases table.rows[row]? with
  | none => simp only [Option.map_none, Option.bind_none, Option.join_none, ite_self]
  | some found =>
      simp only [Option.map_some, Option.bind_some, List.getElem?_eraseIdx]
      split <;> rfl

/-- From the place of a row or column that has been removed on there is what was one
behind. -/
theorem cell?_eraseAt (table : Table) (axis : Axis) (place : Nat) (c : Coord) :
    (table.eraseAt axis place).cell? c =
      if c.along axis < place then table.cell? c
      else table.cell? (c.withAlong (c.along axis + 1) axis) := by
  rcases c.negative_or_natCast with negative | ⟨row, column, rfl⟩
  · rw [cell?_of_negative negative, cell?_of_negative negative]
    split
    · rfl
    · rw [cell?_of_negative]
      cases axis <;> simp only [Coord.along, Coord.withAlong] at * <;> omega
  · cases axis with
    | row =>
        simp only [eraseAt, cell?_eraseRow, Coord.along, Coord.withAlong, Int.ofNat_lt]
        rfl
    | column =>
        simp only [eraseAt, cell?_eraseColumn, Coord.along, Coord.withAlong, Int.ofNat_lt]
        rfl

theorem cell?_store_natCast (table : Table) (row column : Nat) (content : Option Text)
    (place offset : Nat) :
    (table.store row column content).cell? ⟨place, offset⟩ =
      if place = row ∧ offset = column then
        if row < table.rows.length ∧ column < table.widths.length then content else none
      else table.cell? ⟨place, offset⟩ := by
  simp only [cell?_natCast]
  rw [store, List.getElem?_modify]
  cases lookup : table.rows[place]? with
  | none =>
      have beyond := List.getElem?_eq_none_iff.mp lookup
      simp only [Option.map_eq_map, Option.map_none, Option.bind_none, Option.join_none]
      split
      · rw [if_neg (by omega)]
      · rfl
  | some found =>
      have inside := (List.getElem?_eq_some_iff.mp lookup).1
      have fits := table.rectangular found (List.mem_of_getElem? lookup)
      simp only [Option.map_eq_map, Option.map_some, Option.bind_some]
      by_cases sameRow : row = place
      · subst sameRow
        rw [if_pos rfl, List.getElem?_set, fits]
        by_cases sameColumn : column = offset
        · subst sameColumn
          simp only [inside, true_and, if_true]
          split <;> rfl
        · rw [if_neg sameColumn, if_neg (by omega)]
      · rw [if_neg sameRow, if_neg (by omega)]

/-- A cell that the table has holds what is stored there, and the others keep what they
hold. -/
theorem cell?_store (table : Table) (row column : Nat) (content : Option Text) (c : Coord) :
    (table.store row column content).cell? c =
      if c = ⟨row, column⟩ then
        if row < table.rows.length ∧ column < table.widths.length then content else none
      else table.cell? c := by
  rcases c.negative_or_natCast with negative | ⟨place, offset, rfl⟩
  · rw [cell?_of_negative negative, cell?_of_negative negative, if_neg]
    rintro rfl
    simp only at negative
    omega
  · simp only [cell?_store_natCast, Coord.mk.injEq, Int.ofNat_inj]

end Table

end Spreadsheet
