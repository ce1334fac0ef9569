import Mathlib.Algebra.BigOperators.Group.List.Basic
import Spreadsheet.Proofs.Grid.Shift
import Spreadsheet.Proofs.Grid.Table

/-!
# A grid is a dense table

A grid fits a table when both have the same rows and columns and find the same at
every coordinate.  Every operation keeps this, and is refused by both or by neither,
so a grid and a table that have been through the same operations cannot be told
apart by looking at them.
-/

namespace Spreadsheet

/-! ## Extents -/

namespace Grid

variable (grid : Grid) (axis other : Axis) (index : Int)

theorem extent_withExtent (extent : Extent) :
    (grid.withExtent extent axis).extent other =
      if other = axis then extent else grid.extent other := by
  cases axis <;> cases other <;> rfl

theorem extent_including :
    (grid.including axis index).extent other =
      if other = axis then (grid.extent axis).including index else grid.extent other :=
  grid.extent_withExtent axis other _

theorem extent_resizeAll (size : Int) :
    (grid.resizeAll axis size).extent other =
      if other = axis then (grid.extent axis).resized (leastSize axis) size
      else grid.extent other :=
  grid.extent_withExtent axis other _

theorem extent_insertAt :
    (grid.insertAt axis index).extent other =
      if other = axis then
        (grid.extent axis).insertAt (min index.toNat (grid.extent axis).count)
      else grid.extent other := by
  rw [← extent_withExtent]
  cases other <;> rfl

end Grid

namespace Table

variable (table : Table) (axis other : Axis) (index : Int)

theorem count_extent : (table.extent axis).count = table.count axis := by
  cases axis with
  | row => exact List.length_map _
  | column => rfl

theorem extent_including :
    (table.including axis index).extent other =
      if other = axis then (table.extent axis).including index else table.extent other := by
  cases axis <;> cases other <;>
    simp [including, padRows, padColumns, blankRow, extent, Extent.including, Extent.count,
      Function.comp_def]

theorem extent_resizeAll (size : Int) :
    (table.resizeAll axis size).extent other =
      if other = axis then (table.extent axis).resized (Grid.leastSize axis) size
      else table.extent other := by
  unfold resizeAll Extent.resized
  split
  · split
    · next same => rw [same]
    · rfl
  · cases axis <;> cases other <;> simp [extent, Function.comp_def]

theorem extent_insertAt :
    (table.insertAt axis index).extent other =
      if other = axis then (table.extent axis).insertAt (min index.toNat (table.count axis))
      else table.extent other := by
  have place : (max 0 (min index (table.count axis))).toNat =
      min index.toNat (table.count axis) := by
    omega
  unfold insertAt
  rw [place]
  cases axis <;> cases other <;>
    simp [insertRow, insertColumn, blankRow, extent, Extent.insertAt, List.map_insertIdx,
      Function.comp_def]

theorem extent_eraseAt (place : Nat) :
    (table.eraseAt axis place).extent other =
      if other = axis then (table.extent axis).eraseAt place else table.extent other := by
  cases axis <;> cases other <;>
    simp [eraseAt, eraseRow, eraseColumn, extent, Extent.eraseAt, List.eraseIdx_map,
      Function.comp_def]

theorem extent_store (row column : Nat) (content : Option Text) :
    (table.store row column content).extent other = table.extent other := by
  cases other with
  | row =>
      have heights : (table.rows.modify row fun old =>
          { old with cells := old.cells.set column content }).map TableRow.height =
            table.rows.map TableRow.height := by
        apply List.ext_getElem?
        intro place
        rw [List.getElem?_map, List.getElem?_modify, List.getElem?_map]
        cases table.rows[place]? with
        | none => rfl
        | some found => simp only [Option.map_eq_map, Option.map_some]; split <;> rfl
      exact congrArg (fun sizes => Extent.mk sizes table.defaultHeight) heights
  | column => rfl

theorem lt_count_including {index : Int} (notNegative : 0 ≤ index) :
    index.toNat < (table.including axis index).count axis := by
  rw [← count_extent, extent_including, if_pos rfl, Extent.including, Extent.count,
    List.length_append, List.length_replicate, Extent.count]
  omega

theorem inside_padded {c : Coord} (row : 0 ≤ c.row) (column : 0 ≤ c.col) :
    c.row.toNat < ((table.including .row c.row).including .column c.col).rows.length ∧
      c.col.toNat < ((table.including .row c.row).including .column c.col).widths.length := by
  constructor
  · have kept : ((table.including .row c.row).including .column c.col).count .row =
        (table.including .row c.row).count .row := by
      rw [← count_extent, extent_including, if_neg (by decide), count_extent]
    have inside := table.lt_count_including .row row
    rw [← kept] at inside
    exact inside
  · exact (table.including .row c.row).lt_count_including .column column

end Table

/-! ## One operation after another -/

/-- The grid and the table have the same rows and columns, and where the grid has a text
stored the table has it in its cell. -/
structure Refines (grid : Grid) (table : Table) : Prop where
  extent : ∀ axis, grid.extent axis = table.extent axis
  cells : ∀ c, grid.cells.get? c = table.cell? c
  appendRow : grid.appendRow = table.appendRow
  functions : grid.functions = table.functions

/-- An operation on the grid and the table is refused for the same reason, or it is
carried out on both. -/
inductive RefinesResult : Except GridError Grid → Except GridError Table → Prop
  | ok {grid : Grid} {table : Table} (refines : Refines grid table) :
      RefinesResult (.ok grid) (.ok table)
  | error (refusal : GridError) : RefinesResult (.error refusal) (.error refusal)

/-- The same for operations that keep some of their effects when they are refused. -/
def RefinesAfter (ending : Grid × Option GridError) (ending' : Table × Option GridError) :
    Prop :=
  Refines ending.1 ending'.1 ∧ ending.2 = ending'.2

/-- What follows if nothing has been refused follows for both. -/
theorem RefinesAfter.next {ending : Grid × Option GridError} {ending' : Table × Option GridError}
    {following : Grid → Grid × Option GridError} {following' : Table → Table × Option GridError} :
    RefinesAfter ending ending' →
    (∀ grid table, Refines grid table → RefinesAfter (following grid) (following' table)) →
    RefinesAfter
      (match ending with
        | (grid, none) => following grid
        | refused => refused)
      (match ending' with
        | (table, none) => following' table
        | refused => refused) := by
  obtain ⟨grid, refusal⟩ := ending
  obtain ⟨table, refusal'⟩ := ending'
  rintro ⟨refines, same⟩ later
  cases same
  cases refusal with
  | none => exact later grid table refines
  | some refusal => exact ⟨refines, rfl⟩

namespace Refines

variable {grid : Grid} {table : Table}

theorem settle (refines : Refines grid table) {result : Except GridError Grid}
    {result' : Except GridError Table} (same : RefinesResult result result') :
    RefinesAfter (Operation.settle grid result) (Operation.settle table result') := by
  cases same with
  | ok changed => exact ⟨changed, rfl⟩
  | error refusal => exact ⟨refines, rfl⟩

theorem count (refines : Refines grid table) (axis : Axis) :
    (grid.extent axis).count = table.count axis := by
  rw [refines.extent, Table.count_extent]

theorem including (refines : Refines grid table) (axis : Axis) (index : Int) :
    Refines (grid.including axis index) (table.including axis index) where
  extent other := by
    rw [Grid.extent_including, Table.extent_including, refines.extent, refines.extent]
  cells c := by
    rw [Table.cell?_including, ← refines.cells]
    cases axis <;> rfl
  appendRow := by cases axis <;> exact refines.appendRow
  functions := by cases axis <;> exact refines.functions

theorem resizeAll (refines : Refines grid table) (axis : Axis) (size : Int) :
    Refines (grid.resizeAll axis size) (table.resizeAll axis size) where
  extent other := by
    rw [Grid.extent_resizeAll, Table.extent_resizeAll, refines.extent, refines.extent]
  cells c := by
    have untouched : (table.resizeAll axis size).cell? c = table.cell? c :=
      table.cell?_resizeAll axis size c
    rw [untouched, ← refines.cells]
    cases axis <;> rfl
  appendRow := by
    unfold Table.resizeAll
    split <;> cases axis <;> exact refines.appendRow
  functions := by
    unfold Table.resizeAll
    split <;> cases axis <;> exact refines.functions

theorem insertAt (refines : Refines grid table) (axis : Axis) (index : Int) :
    Refines (grid.insertAt axis index) (table.insertAt axis index) where
  extent other := by
    rw [Grid.extent_insertAt, Table.extent_insertAt, refines.extent, refines.extent,
      Table.count_extent]
  cells c := by
    have moved := CoordMap.get?_shiftedUp grid.cells axis
      (min index.toNat (grid.extent axis).count : Nat) c
    simp only [refines.cells, refines.count] at moved
    rw [Table.cell?_insertAt, ← moved, Grid.insertAt, refines.count]
  appendRow := by cases axis <;> exact refines.appendRow
  functions := by cases axis <;> exact refines.functions

theorem removeAt (refines : Refines grid table) (axis : Axis) (index : Int) :
    RefinesResult (grid.removeAt axis index) (table.removeAt axis index) := by
  rw [Grid.removeAt, Table.removeAt, refines.count]
  by_cases inside : 0 ≤ index ∧ index < table.count axis
  · rw [if_neg (by simpa using inside), if_pos inside]
    refine .ok ⟨?_, ?_, ?_, ?_⟩
    · intro other
      rw [Table.extent_eraseAt, ← refines.extent, ← refines.extent, ← Grid.extent_withExtent]
      cases other <;> rfl
    · intro c
      have moved := CoordMap.get?_shiftedDown? grid.cells axis index c
      simp only [refines.cells] at moved
      rw [Table.cell?_eraseAt, Int.toNat_of_nonneg inside.1, ← moved]
    · cases axis <;> exact refines.appendRow
    · cases axis <;> exact refines.functions
  · rw [if_pos (by simp; omega), if_neg inside]
    exact .error _

theorem setCell (refines : Refines grid table) (c : Coord) (text : Text) :
    RefinesResult (grid.setCell c text) (table.write c text) := by
  rw [Grid.setCell, Table.write]
  by_cases negative : c.row < 0 ∨ c.col < 0
  · rw [if_pos (by simpa using negative), if_pos negative]
    exact .error _
  · rw [if_neg (by simpa using negative), if_neg negative]
    have padded := (refines.including .row c.row).including .column c.col
    refine .ok ⟨?_, ?_, padded.appendRow, padded.functions⟩
    · intro axis
      rw [Table.extent_store, ← padded.extent]
      cases axis <;> rfl
    · intro d
      have inside := table.inside_padded (c := c) (by omega) (by omega)
      rw [CoordMap.get?_insert, Table.cell?_store, Coord.toNat_of_nonneg (by omega) (by omega),
        if_pos inside, padded.cells]

theorem clear (refines : Refines grid table) (c : Coord) :
    Refines (grid.clearCell c) (table.clear c) := by
  unfold Table.clear
  split
  · next negative =>
      refine ⟨refines.extent, ?_, refines.appendRow, refines.functions⟩
      intro d
      rw [Grid.clearCell, CoordMap.get?_erase, refines.cells]
      split
      · next same => rw [same, Table.cell?_of_negative negative]
      · rfl
  · next inside =>
      refine ⟨?_, ?_, refines.appendRow, refines.functions⟩
      · intro axis
        rw [Table.extent_store, ← refines.extent]
        cases axis <;> rfl
      · intro d
        rw [Grid.clearCell, CoordMap.get?_erase, refines.cells, Table.cell?_store,
          Coord.toNat_of_nonneg (by omega) (by omega), ite_self]

theorem put (refines : Refines grid table) (c : Coord) (value : HostValue) :
    RefinesResult (grid.put c value) (table.put c value) := by
  rw [Grid.put, Table.put]
  cases value.stored? with
  | some text => exact refines.setCell c text
  | none => exact .error _

theorem access (refines : Refines grid table) (c : Coord) (value : Option HostValue) :
    RefinesResult (Prod.fst <$> grid.access c value) (table.access c value) := by
  cases value with
  | none => exact .ok refines
  | some value =>
      have stored := refines.put c value
      rw [Grid.access, Table.access]
      generalize grid.put c value = result at stored ⊢
      generalize table.put c value = result' at stored ⊢
      cases stored with
      | ok changed => exact .ok changed
      | error refusal => exact .error refusal

theorem setKey (refines : Refines grid table) (key : Text) (value : Option HostValue) :
    RefinesResult (grid.setKey key value) (table.setKey key value) := by
  rw [Grid.setKey, Table.setKey]
  cases Grid.coordOf key with
  | error refusal => exact .error refusal
  | ok c =>
      cases value with
      | none => exact .ok (refines.clear c)
      | some value => exact refines.put c value

/-! ## Bulk writes -/

theorem writeRow (refines : Refines grid table) (row column : Int)
    (values : List (Option HostValue)) :
    RefinesAfter (grid.writeAll (Grid.rowWrites row column values))
      (table.writeRow row column values) := by
  induction values generalizing grid table column with
  | nil => exact ⟨refines, rfl⟩
  | cons value rest inductionHypothesis =>
      rw [Grid.rowWrites_cons]
      cases value with
      | none => exact inductionHypothesis refines (column + 1)
      | some value =>
          have stored := refines.put ⟨row, column⟩ value
          simp only [Option.map_some, Option.toList_some, List.singleton_append]
          rw [Grid.writeAll, Table.writeRow]
          generalize grid.put ⟨row, column⟩ value = result at stored ⊢
          generalize table.put ⟨row, column⟩ value = result' at stored ⊢
          cases stored with
          | ok changed => exact inductionHypothesis changed (column + 1)
          | error refusal => exact ⟨refines, rfl⟩

theorem writeRows (refines : Refines grid table) (row column : Int)
    (block : List (List (Option HostValue))) :
    RefinesAfter (grid.writeRows row column block) (table.writeRows row column block) := by
  unfold Grid.writeRows
  induction block generalizing grid table row with
  | nil => exact ⟨refines, rfl⟩
  | cons values rest inductionHypothesis =>
      rw [Grid.blockWrites_cons, Grid.writeAll_append, Table.writeRows]
      apply (refines.writeRow row column values).next
      exact fun written table' refines' => inductionHypothesis refines' (row + 1)

theorem append (refines : Refines grid table) (values : List (Option HostValue)) :
    RefinesAfter (grid.append values) (table.append values) := by
  rw [Grid.append, Table.append, ← refines.appendRow]
  apply (refines.writeRow grid.appendRow 0 values).next
  intro written table' refines'
  exact ⟨⟨refines'.extent, refines'.cells, rfl, refines'.functions⟩, rfl⟩

/-- Every operation keeps a grid and a table together. -/
theorem perform (refines : Refines grid table) (operation : Operation) :
    RefinesAfter (grid.perform operation) (table.perform operation) := by
  cases operation with
  | setCell c text => exact refines.settle (refines.setCell c text)
  | clearCell c => exact ⟨refines.clear c, rfl⟩
  | access c value => exact refines.settle (refines.access c value)
  | setKey key value => exact refines.settle (refines.setKey key value)
  | append values => exact refines.append values
  | writeRows row column block => exact refines.writeRows row column block
  | extend axis index => exact ⟨refines.including axis index, rfl⟩
  | resizeAll axis size => exact ⟨refines.resizeAll axis size, rfl⟩
  | insertAt axis index => exact ⟨refines.insertAt axis index, rfl⟩
  | removeAt axis index => exact refines.settle (refines.removeAt axis index)

theorem blank (rows columns width height : Int) (functions : Registry) :
    Refines (Grid.blank rows columns width height functions)
      (Table.new rows columns width height functions) where
  extent axis := by
    cases axis with
    | row =>
        rw [Table.extent, Table.new, List.map_replicate]
        rfl
    | column => rfl
  cells c := by
    rcases c.negative_or_natCast with negative | ⟨row, column, rfl⟩
    · exact (Table.cell?_of_negative negative).symm
    · rw [Table.cell?_natCast, Table.new, List.getElem?_replicate]
      split
      · exact (Table.join_getElem?_replicate ..).symm
      · rfl
  appendRow := rfl
  functions := rfl

end Refines

end Spreadsheet
