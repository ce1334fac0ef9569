import Spreadsheet.Proofs.Grid.Operation
import Spreadsheet.Proofs.Grid.Shift

/-!
# Where rows are appended

A grid counts the rows that have been appended, and the row of that number is the
next one.  Inserting and removing rows moves the appended rows and leaves the count
as it is.  An `AppendedRow` follows one of them through the operations, with what
has happened since.

So the next row comes below an appended one as long as fewer rows have been inserted
above that one than have been appended from it on or removed above it.  When they
have become equally many, the next row is written over it.
-/

namespace Spreadsheet

/-- A row that has been appended: where it is now, how many rows have been appended
since, itself included unless it was refused, and how many have been inserted and
removed above it. -/
structure AppendedRow where
  place : Nat
  completed : Nat
  inserted : Nat
  removed : Nat
  deriving DecidableEq

namespace AppendedRow

/-- The row after an operation on the grid, unless that removes it. -/
def after (grid : Grid) (row : AppendedRow) : Operation → Option AppendedRow
  | .append values =>
      if (grid.append values).2 = none then some { row with completed := row.completed + 1 }
      else some row
  | .insertAt .row index =>
      if min index.toNat grid.rows.count ≤ row.place then
        some { row with place := row.place + 1, inserted := row.inserted + 1 }
      else some row
  | .removeAt .row index =>
      if index < 0 || (grid.rows.count : Int) ≤ index then some row
      else if index.toNat = row.place then none
      else if index.toNat < row.place then
        some { row with place := row.place - 1, removed := row.removed + 1 }
      else some row
  | _ => some row

/-- What is followed before an operation: to append is to begin a row. -/
def begun (grid : Grid) (rows : List AppendedRow) : Operation → List AppendedRow
  | .append _ => ⟨grid.appendRow, 0, 0, 0⟩ :: rows
  | _ => rows

/-- The rows that have been appended and not removed, after operations on the
grid. -/
def track (grid : Grid) (rows : List AppendedRow) : List Operation → List AppendedRow
  | [] => rows
  | operation :: rest =>
      track (grid.perform operation).1
        ((begun grid rows operation).filterMap fun row => row.after grid operation) rest

/-- The count of the grid is the place of the row but for what has happened
since. -/
def Fits (row : AppendedRow) (grid : Grid) : Prop :=
  grid.appendRow + row.inserted = row.place + row.removed + row.completed

end AppendedRow

namespace Grid

variable {grid : Grid}

/-! ## What is written -/

theorem setCell_eq_ok {c : Coord} {text : Text} {written : Grid}
    (taken : grid.setCell c text = .ok written) :
    written.appendRow = grid.appendRow ∧
      written.cells = grid.cells.insert c text := by
  rw [setCell] at taken
  split at taken
  · cases taken
  · cases taken
    exact ⟨rfl, rfl⟩

theorem put_eq_ok {c : Coord} {value : HostValue} {written : Grid}
    (taken : grid.put c value = .ok written) :
    ∃ text, value.stored? = some text ∧ written.appendRow = grid.appendRow ∧
      written.cells = grid.cells.insert c text := by
  rw [put] at taken
  cases stored : value.stored? with
  | none =>
      rw [stored] at taken
      cases taken
  | some text =>
      rw [stored] at taken
      exact ⟨text, rfl, setCell_eq_ok taken⟩

theorem text_put {c : Coord} {value : HostValue} {written : Grid}
    (taken : grid.put c value = .ok written) (d : Coord) :
    some (written.text d) = if d = c then value.stored? else some (grid.text d) := by
  obtain ⟨text, stored, -, cells⟩ := put_eq_ok taken
  rw [Grid.text, cells, CoordMap.get?_insert, stored]
  split
  · rfl
  · rfl

theorem appendRow_writeAll (writes : List (Coord × HostValue)) :
    (grid.writeAll writes).1.appendRow = grid.appendRow := by
  induction writes generalizing grid with
  | nil => rfl
  | cons write rest inductionHypothesis =>
      rw [writeAll]
      cases taken : grid.put write.1 write.2 with
      | error refusal => rfl
      | ok written =>
          obtain ⟨-, -, same, -⟩ := put_eq_ok taken
          exact inductionHypothesis.trans same

theorem text_writeAll_of_notMem {writes : List (Coord × HostValue)} {c : Coord}
    (elsewhere : ∀ write ∈ writes, write.1 ≠ c) :
    (grid.writeAll writes).1.text c = grid.text c := by
  induction writes generalizing grid with
  | nil => rfl
  | cons write rest inductionHypothesis =>
      have others : ∀ later ∈ rest, later.1 ≠ c :=
        fun later member => elsewhere later (List.mem_cons_of_mem _ member)
      rw [writeAll]
      cases taken : grid.put write.1 write.2 with
      | error refusal => rfl
      | ok written =>
          have kept := text_put taken c
          rw [if_neg (elsewhere write List.mem_cons_self).symm] at kept
          exact (inductionHypothesis others).trans (Option.some.inj kept)

theorem mem_rowWrites {row column : Int} {values : List (Option HostValue)}
    {write : Coord × HostValue} (member : write ∈ rowWrites row column values) :
    write.1.row = row ∧ column ≤ write.1.col := by
  obtain ⟨⟨value, offset⟩, -, written⟩ := List.mem_filterMap.mp member
  obtain ⟨stored, -, rfl⟩ := Option.map_eq_some_iff.mp written
  exact ⟨rfl, Int.le_add_of_nonneg_right (Int.natCast_nonneg offset)⟩

/-- Unless a write is refused, a row of values is found where it has been
written. -/
theorem text_rowWrites {row column : Int} {values : List (Option HostValue)}
    (taken : (grid.writeAll (rowWrites row column values)).2 = none) {offset : Nat}
    {value : HostValue} (given : values[offset]? = some (some value)) :
    some ((grid.writeAll (rowWrites row column values)).1.text ⟨row, column + offset⟩) =
      value.stored? := by
  induction values generalizing grid column offset with
  | nil => cases given
  | cons first rest inductionHypothesis =>
      have moved (offset : Nat) : column + ((offset + 1 : Nat) : Int) = column + 1 + offset := by
        omega
      rw [rowWrites_cons] at taken ⊢
      cases first with
      | none =>
          cases offset with
          | zero => cases given
          | succ offset =>
              rw [moved]
              exact inductionHypothesis taken given
      | some first =>
          change ((grid.writeAll ((⟨row, column⟩, first) :: rowWrites row (column + 1) rest)).2 =
            none) at taken
          change some ((grid.writeAll ((⟨row, column⟩, first) ::
            rowWrites row (column + 1) rest)).1.text _) = _
          rw [writeAll] at taken ⊢
          cases put : grid.put ⟨row, column⟩ first with
          | error refusal =>
              rw [put] at taken
              cases taken
          | ok written =>
              rw [put] at taken
              cases offset with
              | succ offset =>
                  rw [moved]
                  exact inductionHypothesis taken given
              | zero =>
                  cases given
                  -- The first value is not written over by those to the right of it.
                  have elsewhere : ∀ write ∈ rowWrites row (column + 1) rest,
                      write.1 ≠ ⟨row, column + ((0 : Nat) : Int)⟩ := by
                    rintro write member same
                    have behind := (mem_rowWrites member).2
                    rw [same] at behind
                    simp only at behind
                    omega
                  rw [text_writeAll_of_notMem elsewhere, text_put put, if_pos (by simp)]

/-! ## Appending -/

/-- Appending counts a row that has not been refused. -/
theorem appendRow_append (values : List (Option HostValue)) :
    (grid.append values).1.appendRow =
      if (grid.append values).2 = none then grid.appendRow + 1 else grid.appendRow := by
  have kept := grid.appendRow_writeAll (rowWrites grid.appendRow 0 values)
  rw [append]
  rcases ended : grid.writeAll (rowWrites grid.appendRow 0 values) with ⟨written, _ | refusal⟩
  · rfl
  · rw [ended] at kept
    exact kept

theorem text_append (values : List (Option HostValue)) (c : Coord) :
    (grid.append values).1.text c =
      (grid.writeAll (rowWrites grid.appendRow 0 values)).1.text c := by
  rw [append]
  rcases grid.writeAll (rowWrites grid.appendRow 0 values) with ⟨written, _ | refusal⟩
  · rfl
  · rfl

/-- Appending changes texts in the row of the count only, -/
theorem text_append_of_ne (values : List (Option HostValue)) {c : Coord}
    (other : c.row ≠ grid.appendRow) : (grid.append values).1.text c = grid.text c := by
  rw [text_append]
  apply text_writeAll_of_notMem
  rintro write member rfl
  exact other (mem_rowWrites member).1

/-- and puts the values there, unless it is refused. -/
theorem text_append_self {values : List (Option HostValue)}
    (taken : (grid.append values).2 = none) {offset : Nat} {value : HostValue}
    (given : values[offset]? = some (some value)) :
    some ((grid.append values).1.text ⟨grid.appendRow, offset⟩) = value.stored? := by
  have written : (grid.writeAll (rowWrites grid.appendRow 0 values)).2 = none := by
    rw [append] at taken
    rcases ended : grid.writeAll (rowWrites grid.appendRow 0 values) with ⟨_, _ | refusal⟩
    · rfl
    · rw [ended] at taken
      cases taken
  have found := text_rowWrites written given
  rwa [Int.zero_add, ← text_append] at found

theorem appendRow_put {c : Coord} {value : HostValue} {written : Grid}
    (taken : grid.put c value = .ok written) : written.appendRow = grid.appendRow := by
  obtain ⟨-, -, same, -⟩ := put_eq_ok taken
  exact same

/-- An operation that counts no row when it is carried out counts none. -/
theorem appendRow_settle {result : Except GridError Grid}
    (kept : ∀ changed, result = .ok changed → changed.appendRow = grid.appendRow) :
    (Operation.settle grid result).1.appendRow = grid.appendRow := by
  cases result with
  | ok changed => exact kept changed rfl
  | error refusal => rfl

theorem appendRow_access {c : Coord} {value : Option HostValue} {changed : Grid}
    (taken : Prod.fst <$> grid.access c value = .ok changed) :
    changed.appendRow = grid.appendRow := by
  cases value with
  | none =>
      cases taken
      rfl
  | some value =>
      rw [access] at taken
      cases stored : grid.put c value with
      | error refusal =>
          rw [stored] at taken
          cases taken
      | ok written =>
          rw [stored] at taken
          cases taken
          exact appendRow_put stored

theorem appendRow_setKey {key : Text} {value : Option HostValue} {changed : Grid}
    (taken : grid.setKey key value = .ok changed) : changed.appendRow = grid.appendRow := by
  rw [setKey] at taken
  cases named : coordOf key with
  | error refusal =>
      rw [named] at taken
      cases taken
  | ok c =>
      rw [named] at taken
      cases value with
      | none =>
          cases taken
          rfl
      | some value => exact appendRow_put taken

theorem appendRow_removeAt {axis : Axis} {index : Int} {changed : Grid}
    (taken : grid.removeAt axis index = .ok changed) : changed.appendRow = grid.appendRow := by
  rw [removeAt] at taken
  split at taken
  · cases taken
  · cases taken
    cases axis <;> rfl

/-- No operation but appending counts a row. -/
theorem appendRow_perform {operation : Operation}
    (other : ∀ values, operation ≠ .append values) :
    (grid.perform operation).1.appendRow = grid.appendRow := by
  cases operation with
  | setCell c text => exact appendRow_settle fun _ taken => (setCell_eq_ok taken).1
  | clearCell c => rfl
  | access c value => exact appendRow_settle fun _ => appendRow_access
  | setKey key value => exact appendRow_settle fun _ => appendRow_setKey
  | append values => exact absurd rfl (other values)
  | writeRows row column block => exact appendRow_writeAll _
  | extend axis index => cases axis <;> rfl
  | resizeAll axis size => cases axis <;> rfl
  | insertAt axis index => cases axis <;> rfl
  | removeAt axis index => exact appendRow_settle fun _ => appendRow_removeAt

/-! ## Moving rows -/

theorem text_insertAt_row (index place column : Int) :
    (grid.insertAt .row index).text ⟨place, column⟩ =
      if place < (min index.toNat grid.rows.count : Nat) then grid.text ⟨place, column⟩
      else if place = (min index.toNat grid.rows.count : Nat) then []
      else grid.text ⟨place - 1, column⟩ := by
  have found : (grid.insertAt .row index).cells.get? ⟨place, column⟩ =
      if place < (min index.toNat grid.rows.count : Nat) then grid.cells.get? ⟨place, column⟩
      else if place = (min index.toNat grid.rows.count : Nat) then none
      else grid.cells.get? ⟨place - 1, column⟩ :=
    grid.cells.get?_shiftedUp .row _ ⟨place, column⟩
  rw [text, found]
  split
  · rfl
  · split <;> rfl

theorem text_removeAt_row {index : Int} {narrowed : Grid}
    (removed : grid.removeAt .row index = .ok narrowed) :
    ¬ (index < 0 || (grid.rows.count : Int) ≤ index) = true ∧
      ∀ place column : Int, narrowed.text ⟨place, column⟩ =
        if place < index then grid.text ⟨place, column⟩ else grid.text ⟨place + 1, column⟩ := by
  rw [removeAt] at removed
  split at removed
  · cases removed
  · next inside =>
      cases removed
      refine ⟨inside, fun place column => ?_⟩
      have found : (grid.cells.rekey fun c => c.shiftedDown? .row index).get? ⟨place, column⟩ =
          if place < index then grid.cells.get? ⟨place, column⟩
          else grid.cells.get? ⟨place + 1, column⟩ :=
        grid.cells.get?_shiftedDown? .row index ⟨place, column⟩
      rw [text, found]
      split <;> rfl

end Grid

/-! ## Following a row -/

namespace AppendedRow

variable {grid : Grid} {row next : AppendedRow}

/-- A row that fits the count fits it after every operation. -/
theorem Fits.after (fits : row.Fits grid) {operation : Operation}
    (moved : row.after grid operation = some next) :
    next.Fits (grid.perform operation).1 := by
  -- Only what happens above the row, or appending, moves the row or the count.
  unfold Fits at fits ⊢
  cases operation with
  | append values =>
      have counted := grid.appendRow_append values
      change (grid.append values).1.appendRow + _ = _
      rw [AppendedRow.after] at moved
      by_cases taken : (grid.append values).2 = none
      · rw [if_pos taken] at moved counted
        cases moved
        simp only [counted]
        omega
      · rw [if_neg taken] at moved counted
        cases moved
        rwa [counted]
  | insertAt axis index =>
      rw [Grid.appendRow_perform fun _ => Operation.noConfusion]
      cases axis with
      | column =>
          cases moved
          exact fits
      | row =>
          rw [AppendedRow.after] at moved
          split at moved
          · cases moved
            simp only
            omega
          · cases moved
            exact fits
  | removeAt axis index =>
      rw [Grid.appendRow_perform fun _ => Operation.noConfusion]
      cases axis with
      | column =>
          cases moved
          exact fits
      | row =>
          rw [AppendedRow.after] at moved
          split at moved
          · cases moved
            exact fits
          · split at moved
            · cases moved
            · split at moved
              · cases moved
                simp only
                omega
              · cases moved
                exact fits
  | _ =>
      rw [Grid.appendRow_perform fun _ => Operation.noConfusion]
      cases moved
      exact fits

theorem fits_of_mem_begun {rows : List AppendedRow} (fits : ∀ row ∈ rows, row.Fits grid)
    {operation : Operation} (member : row ∈ begun grid rows operation) : row.Fits grid := by
  cases operation with
  | append values =>
      rcases List.mem_cons.mp member with rfl | earlier
      · rfl
      · exact fits row earlier
  | _ => exact fits row member

/-- All rows that have been appended and not removed fit the count, whatever operations
there have been. -/
theorem fits_of_mem_track {rows : List AppendedRow} (fits : ∀ row ∈ rows, row.Fits grid)
    {operations : List Operation} (member : row ∈ track grid rows operations) :
    row.Fits (Operation.run Grid.perform grid operations).1 := by
  induction operations generalizing grid rows with
  | nil => exact fits row member
  | cons operation rest inductionHypothesis =>
      refine inductionHypothesis ?_ member
      intro next moved
      obtain ⟨earlier, begun, after⟩ := List.mem_filterMap.mp moved
      exact (fits_of_mem_begun fits begun).after after

/-- Where the texts of an appended row are after a row has been inserted, -/
theorem text_insertAt {index : Int} (moved : row.after grid (.insertAt .row index) = some next)
    (column : Int) :
    (grid.insertAt .row index).text ⟨next.place, column⟩ = grid.text ⟨row.place, column⟩ := by
  rw [after] at moved
  by_cases below : min index.toNat grid.rows.count ≤ row.place
  · rw [if_pos below] at moved
    cases moved
    have behind : ((row.place + 1 : Nat) : Int) - 1 = row.place := by omega
    dsimp only
    rw [Grid.text_insertAt_row, if_neg (by omega), if_neg (by omega), behind]
  · rw [if_neg below] at moved
    cases moved
    rw [Grid.text_insertAt_row, if_pos (by omega)]

/-- and after one has been removed. -/
theorem text_removeAt {index : Int} {narrowed : Grid}
    (removed : grid.removeAt .row index = .ok narrowed)
    (moved : row.after grid (.removeAt .row index) = some next) (column : Int) :
    narrowed.text ⟨next.place, column⟩ = grid.text ⟨row.place, column⟩ := by
  obtain ⟨inside, texts⟩ := Grid.text_removeAt_row removed
  rw [after, if_neg inside] at moved
  simp only [Bool.or_eq_true, decide_eq_true_eq] at inside
  by_cases itself : index.toNat = row.place
  · rw [if_pos itself] at moved
    cases moved
  · rw [if_neg itself] at moved
    by_cases above : index.toNat < row.place
    · rw [if_pos above] at moved
      cases moved
      have behind : ((row.place - 1 : Nat) : Int) + 1 = row.place := by omega
      dsimp only
      rw [texts, if_neg (by omega), behind]
    · rw [if_neg above] at moved
      cases moved
      rw [texts, if_pos (by omega)]

end AppendedRow

/-- After any operations, the next row is appended below a row that has been appended
before if and only if fewer rows have been inserted above that one than have been
appended from it on or removed above it.  It changes nothing in that row unless the
two are equally many, and then its values are written over the texts there. -/
theorem Grid.append_below_iff {grid : Grid} {operations : List Operation} {row : AppendedRow}
    (appended : row ∈ AppendedRow.track grid [] operations) (values : List (Option HostValue)) :
    let current := (Operation.run perform grid operations).1
    let next := current.append values
    (row.place < current.appendRow ↔ row.inserted < row.removed + row.completed) ∧
    (row.inserted ≠ row.removed + row.completed → ∀ column,
      next.1.text ⟨row.place, column⟩ = current.text ⟨row.place, column⟩) ∧
    (row.inserted = row.removed + row.completed → next.2 = none →
      ∀ (offset : Nat) value, values[offset]? = some (some value) →
        some (next.1.text ⟨row.place, offset⟩) = value.stored?) := by
  intro current next
  have fits : row.Fits current :=
    AppendedRow.fits_of_mem_track (List.forall_mem_nil _) appended
  unfold AppendedRow.Fits at fits
  constructor
  · omega
  constructor
  · intro differ column
    apply current.text_append_of_ne
    simp only
    omega
  · intro same taken offset value given
    have place : row.place = current.appendRow := by omega
    rw [place]
    exact text_append_self taken given

/-- A row inserted above the only appended row: the next one is written over it. -/
theorem Grid.append_below_iff_inserted :
    let operations : List Operation := [.append [some (.text ['a'])], .insertAt .row 0]
    let current := (Operation.run perform default operations).1
    let next := current.append [some (.text ['b'])]
    AppendedRow.track default [] operations = [⟨1, 1, 1, 0⟩] ∧
      current.text ⟨1, 0⟩ = ['a'] ∧ next.1.text ⟨1, 0⟩ = ['b'] := by
  intro operations current next
  have tracked : AppendedRow.track default [] operations = [⟨1, 1, 1, 0⟩] := by decide
  have appended : ⟨1, 1, 1, 0⟩ ∈ AppendedRow.track default [] operations := by
    rw [tracked]
    exact List.mem_singleton_self _
  obtain ⟨-, -, overwritten⟩ := append_below_iff appended [some (.text ['b'])]
  constructor
  · exact tracked
  constructor
  · rfl
  · exact Option.some.inj (overwritten rfl rfl 0 _ rfl)

end Spreadsheet
