import Spreadsheet.Proofs.Grid.Refinement

/-!
# Looking at a grid and a table

What a grid shows is what the table that it fits shows: each text, the number of the
stored texts and the list of them, each block, and the sizes of the rows and columns.
The list is in strictly increasing order, so it has no cell twice, and a row or column
that is inserted or removed moves its entries without losing or joining any.
-/

namespace Spreadsheet

namespace Table

variable {table : Table} {c : Coord} {text : Text}

/-! ## The list of stored texts -/

theorem pairwise_zipIdx {α : Type} (list : List α) :
    list.zipIdx.Pairwise fun a b => a.2 < b.2 := by
  apply List.pairwise_map.mp
  rw [List.zipIdx_map_snd]
  exact List.pairwise_lt_range'

theorem mem_rowEntries {place : Nat} {row : TableRow} {entry : Coord × Text} :
    entry ∈ rowEntries place row ↔
      ∃ column : Nat, entry.1 = ⟨place, column⟩ ∧ row.cells[column]? = some (some entry.2) := by
  rw [rowEntries, List.mem_filterMap]
  constructor
  · rintro ⟨⟨content, column⟩, member, held⟩
    obtain ⟨text, rfl, rfl⟩ := Option.map_eq_some_iff.mp held
    exact ⟨column, rfl, List.mem_zipIdx_iff_getElem?.mp member⟩
  · rintro ⟨column, there, lookup⟩
    exact ⟨(some entry.2, column), List.mem_zipIdx_iff_getElem?.mpr lookup,
      congrArg some (Prod.ext there.symm rfl)⟩

theorem mem_entries_iff : (c, text) ∈ table.entries ↔ table.cell? c = some text := by
  rw [entries, List.mem_flatMap]
  constructor
  · rintro ⟨⟨row, place⟩, member, inRow⟩
    obtain ⟨column, rfl, held⟩ := mem_rowEntries.mp inRow
    rw [cell?_natCast, List.mem_zipIdx_iff_getElem?.mp member, Option.bind_some, held,
      Option.join_some]
  · intro stored
    rcases c.negative_or_natCast with negative | ⟨place, column, rfl⟩
    · rw [cell?_of_negative negative] at stored
      cases stored
    · rw [cell?_natCast, Option.join_eq_some_iff, Option.bind_eq_some_iff] at stored
      obtain ⟨row, lookup, held⟩ := stored
      exact ⟨(row, place), List.mem_zipIdx_iff_getElem?.mpr lookup,
        mem_rowEntries.mpr ⟨column, rfl, held⟩⟩

/-- The list goes from row to row, and in each row from column to column. -/
theorem ordered_entries (table : Table) : CoordMap.Ordered table.entries := by
  apply List.pairwise_flatMap.mpr
  constructor
  · rintro ⟨row, place⟩ _
    apply List.pairwise_filterMap.mpr
    apply (pairwise_zipIdx row.cells).imp
    rintro ⟨_, first⟩ ⟨_, second⟩ before _ heldA _ heldB
    obtain ⟨_, _, rfl⟩ := Option.map_eq_some_iff.mp heldA
    obtain ⟨_, _, rfl⟩ := Option.map_eq_some_iff.mp heldB
    exact Coord.precedes_iff.mpr (.inr ⟨rfl, Int.ofNat_lt.mpr before⟩)
  · apply (pairwise_zipIdx table.rows).imp
    rintro ⟨_, first⟩ ⟨_, second⟩ before a inFirst b inSecond
    obtain ⟨_, placeA, _⟩ := mem_rowEntries.mp inFirst
    obtain ⟨_, placeB, _⟩ := mem_rowEntries.mp inSecond
    rw [placeA, placeB]
    exact Coord.precedes_iff.mpr (.inl (Int.ofNat_lt.mpr before))

theorem length_rowEntries (place : Nat) (row : TableRow) :
    (rowEntries place row).length = row.cells.countP Option.isSome := by
  rw [rowEntries, List.length_filterMap_eq_countP]
  simp only [Option.isSome_map]
  rw [← Function.comp_def Option.isSome Prod.fst, ← List.countP_map, List.zipIdx_map_fst]

theorem length_entries (table : Table) : table.entries.length = table.size := by
  have perRow : (table.rows.zipIdx.map fun placed => (rowEntries placed.2 placed.1).length) =
      table.rows.map fun row => row.cells.countP Option.isSome := by
    simp only [length_rowEntries]
    rw [← Function.comp_def (fun row : TableRow => row.cells.countP Option.isSome) Prod.fst,
      ← List.map_map, List.zipIdx_map_fst]
  rw [entries, size, List.length_flatMap, List.countP_flatMap]
  exact congrArg List.sum perRow

/-! ## All texts -/

theorem between_zero (count : Nat) :
    Grid.between 0 ((count : Int) - 1) = (List.range count).map Nat.cast := by
  have length : ((count : Int) - 1 + 1 - 0).toNat = count := by omega
  simp only [Grid.between, length, Int.zero_add]

/-- The block of the whole table is its rows. -/
theorem texts_eq (table : Table) :
    table.texts = (table.block 0 none 0 none).map fun row => row.map table.text := by
  simp only [block, texts, Option.getD_none, between_zero, List.map_map]
  apply List.ext_getElem (by simp)
  intro row inside _
  rw [List.length_map] at inside
  simp only [List.getElem_map, List.getElem_range, Function.comp_apply]
  have fits := table.rectangular _ (List.getElem_mem inside)
  apply List.ext_getElem (by simpa using fits)
  intro column within _
  rw [List.length_map] at within
  simp only [List.getElem_map, List.getElem_range, Function.comp_apply]
  rw [text, cell?_natCast, List.getElem?_eq_getElem inside, Option.bind_some,
    List.getElem?_eq_getElem within, Option.join_some]

end Table

/-- A grid and a table look the same. -/
structure Agrees (grid : Grid) (table : Table) : Prop where
  text : ∀ c, grid.text c = table.text c
  hasCell : ∀ c, grid.hasCell c = (table.cell? c).isSome
  size : grid.cells.size = table.size
  entries : grid.cells.entries = table.entries
  /-- All rows from the first to the last. -/
  texts : grid.blockTexts (grid.block 0 none 0 none) = table.texts
  blockTexts : ∀ firstRow lastRow firstColumn lastColumn,
    grid.blockTexts (grid.block firstRow lastRow firstColumn lastColumn) =
      (table.block firstRow lastRow firstColumn lastColumn).map fun row => row.map table.text
  blockDisplays : ∀ firstRow lastRow firstColumn lastColumn,
    grid.blockDisplays (grid.block firstRow lastRow firstColumn lastColumn) =
      (table.block firstRow lastRow firstColumn lastColumn).mapM fun row =>
        row.mapM table.display
  rowCount : grid.rows.count = table.rows.length
  columnCount : grid.columns.count = table.widths.length
  heights : grid.rows.sizes = table.rows.map TableRow.height
  widths : grid.columns.sizes = table.widths

namespace Refines

variable {grid : Grid} {table : Table}

theorem entries (refines : Refines grid table) : grid.cells.entries = table.entries := by
  apply CoordMap.entries_ext grid.cells.ordered table.ordered_entries
  rintro ⟨c, text⟩
  rw [← CoordMap.get?_eq_some_iff, refines.cells, Table.mem_entries_iff]

theorem text (refines : Refines grid table) : grid.text = table.text := by
  funext c
  rw [Grid.text, refines.cells, Table.text]

theorem block (refines : Refines grid table) : grid.block = table.block := by
  have rowCount : grid.rows.count = table.rows.length := refines.count .row
  have columnCount : grid.columns.count = table.widths.length := refines.count .column
  funext firstRow lastRow firstColumn lastColumn
  rw [Grid.block, Table.block, rowCount, columnCount]

theorem display (refines : Refines grid table) : grid.display = table.display := by
  have rowCount : grid.rows.count = table.rows.length := refines.count .row
  have columnCount : grid.columns.count = table.widths.length := refines.count .column
  funext c
  rw [Grid.display, Grid.displayWith, Grid.source, Table.display, Table.source, refines.text,
    refines.functions, rowCount, columnCount]

/-- A grid looks like the table that it fits. -/
theorem agrees (refines : Refines grid table) : Agrees grid table where
  text := congrFun refines.text
  hasCell c := by rw [Grid.hasCell, CoordMap.contains, refines.cells]
  size := by rw [CoordMap.size, refines.entries, Table.length_entries]
  entries := refines.entries
  texts := by rw [Table.texts_eq, Grid.blockTexts, refines.text, refines.block]
  blockTexts := by
    intros
    rw [Grid.blockTexts, refines.text, refines.block]
  blockDisplays := by
    intros
    rw [Grid.blockDisplays, refines.display, refines.block]
  rowCount := refines.count .row
  columnCount := refines.count .column
  heights := congrArg Extent.sizes (refines.extent .row)
  widths := congrArg Extent.sizes (refines.extent .column)

end Refines

/-- The stored texts are listed row by row with no cell twice, and a row or column that
is inserted or removed moves the list: an insertion keeps every text, a removal every
text that is not in the row or column removed. -/
structure Grid.Lists (grid : Grid) : Prop where
  ordered : grid.cells.entries.Pairwise fun a b => a.1.precedes b.1 = true
  mem_iff : ∀ c text, (c, text) ∈ grid.cells.entries ↔
    grid.hasCell c = true ∧ grid.text c = text
  inserted : ∀ (axis : Axis) (index : Int),
    (grid.perform (.insertAt axis index)).1.cells.entries = grid.cells.entries.map fun entry =>
      (entry.1.shiftedUp axis (min index.toNat (grid.extent axis).count : Nat), entry.2)
  removed : ∀ (axis : Axis) (index : Int), 0 ≤ index → index < (grid.extent axis).count →
    (grid.perform (.removeAt axis index)).1.cells.entries =
      (grid.cells.entries.filter fun entry => entry.1.along axis != index).map fun entry =>
        (entry.1.closedUp axis index, entry.2)

theorem Grid.lists (grid : Grid) : grid.Lists where
  ordered := grid.cells.ordered
  mem_iff c text := by
    rw [← CoordMap.get?_eq_some_iff, Grid.hasCell, CoordMap.contains, Grid.text]
    cases grid.cells.get? c <;> simp
  inserted := grid.entries_insertAt
  removed axis index notNegative inside := by
    cases ending : grid.removeAt axis index with
    | ok narrowed =>
        rw [← Grid.entries_removeAt ending, Grid.perform, ending]
        rfl
    | error refusal =>
        rw [Grid.removeAt, if_neg (by simp; omega)] at ending
        cases ending

/-- However a grid is made and whatever operations it goes through, a dense table that
goes through the same ones is refused the same and looks the same. -/
theorem Grid.run_agrees (rows columns width height : Int) (functions : Registry)
    (operations : List Operation) :
    let (grid, refusals) :=
      Operation.run Grid.perform (Grid.blank rows columns width height functions) operations
    let (table, refusals') :=
      Operation.run Table.perform (Table.new rows columns width height functions) operations
    refusals = refusals' ∧ Agrees grid table ∧ grid.Lists := by
  obtain ⟨refines, sameRefusals⟩ := Operation.run_related (fun fits => fits.perform)
    (Refines.blank rows columns width height functions) operations
  exact ⟨sameRefusals, refines.agrees, Grid.lists _⟩

end Spreadsheet
