import Spreadsheet.Proofs.Address.RoundTrip
import Spreadsheet.Proofs.Grid.Agreement
import Spreadsheet.Proofs.Grid.Resolution

/-!
# Stored texts lie inside the grid

A grid that has come about by operations fits a table, and a table has its texts in
its cells, so no text is stored outside the rows and columns of the grid.  A reference
that is the name of a stored cell is therefore answered from the cell, and the block of
all rows and columns shows every text.
-/

namespace Spreadsheet

theorem Table.getElem?_texts {table : Table} {c : Coord} {text : Text}
    (stored : table.cell? c = some text) :
    (table.texts[c.row.toNat]?.bind fun row => row[c.col.toNat]?) = some text := by
  rcases c.negative_or_natCast with negative | ⟨row, column, rfl⟩
  · rw [cell?_of_negative negative] at stored
    cases stored
  · rw [cell?_natCast, Option.join_eq_some_iff, Option.bind_eq_some_iff] at stored
    obtain ⟨found, lookup, held⟩ := stored
    simp only [Int.toNat_natCast]
    rw [texts, List.getElem?_map, lookup, Option.map_some, Option.bind_some, List.getElem?_map,
      held]
    rfl

namespace Grid

variable {grid : Grid}

/-- A grid that has come about by operations fits a table. -/
theorem Reachable.refines (reached : grid.Reachable) : ∃ table, Refines grid table := by
  induction reached with
  | blank rows columns width height functions =>
      exact ⟨_, Refines.blank rows columns width height functions⟩
  | performed _ operation inductionHypothesis =>
      obtain ⟨table, refines⟩ := inductionHypothesis
      exact ⟨_, (refines.perform operation).1⟩
  | registered _ taken inductionHypothesis =>
      obtain ⟨table, refines⟩ := inductionHypothesis
      obtain ⟨functions, _, rfl⟩ := Option.map_eq_some_iff.mp taken
      exact ⟨{ table with functions := functions },
        refines.extent, refines.cells, refines.appendRow, rfl⟩

/-- No text is stored outside the rows and columns. -/
structure StaysInside (grid : Grid) : Prop where
  inside : ∀ c, grid.hasCell c = true →
    (0 ≤ c.row ∧ c.row < grid.rows.count) ∧ 0 ≤ c.col ∧ c.col < grid.columns.count
  /-- The name of a stored cell is the reference to it, and is answered from what is
  stored there unless the cell is under evaluation. -/
  answered : ∀ c name, grid.hasCell c = true → c.name = .ok name →
    ∀ functions guard, grid.resolve functions guard name =
      if guard.contains c = true then (.ok (.error .cycle), guard)
      else match Content.ofText (grid.text c) with
        | .empty => (.ok (.number (.zero false)), guard)
        | .literal text => (.ok (.ofLiteral text), guard)
        | .formula text =>
            (Guard.during c (Source.evaluateFormula functions Nesting.cellAllowance
              (grid.source.follow functions Nesting.cellAllowance) text)).run guard
  shown : ∀ c text, grid.cells.get? c = some text →
    ((grid.blockTexts (grid.block 0 none 0 none))[c.row.toNat]?.bind fun row =>
      row[c.col.toNat]?) = some text

/-- Whatever operations a grid goes through, no text is stored outside its rows and
columns. -/
theorem Reachable.staysInside (reached : grid.Reachable) : grid.StaysInside := by
  obtain ⟨table, refines⟩ := reached.refines
  have inside : ∀ c, grid.hasCell c = true →
      (0 ≤ c.row ∧ c.row < grid.rows.count) ∧ 0 ≤ c.col ∧ c.col < grid.columns.count := by
    intro c stored
    rw [hasCell, CoordMap.contains, refines.cells] at stored
    obtain ⟨text, found⟩ := Option.isSome_iff_exists.mp stored
    rw [refines.agrees.rowCount, refines.agrees.columnCount]
    exact Table.bounds_of_cell? found
  refine ⟨inside, ?_, ?_⟩
  · intro c name stored named functions guard
    have holds : grid.source.holds c = true := by
      have bounds := inside c stored
      simp only [Source.holds, Bool.and_eq_true, decide_eq_true_eq]
      exact ⟨⟨⟨bounds.1.1, bounds.2.1⟩, bounds.1.2⟩, bounds.2.2⟩
    rw [resolve, Source.resolve, Source.follow, Source.run_answer, Coord.decode_of_name named]
    simp only [holds, Bool.true_eq_false, if_false]
    split
    · rfl
    · rw [source]
      cases Content.ofText (grid.text c) <;> rfl
  · intro c text stored
    rw [refines.agrees.texts]
    exact Table.getElem?_texts (refines.cells c ▸ stored)

theorem reachable_staysInside_shifted :
    let grid := ((((blank 1 1 16 1 .builtins).perform (.setCell ⟨2, 1⟩ "=A9".toList)).1.perform
      (.insertAt .row 0)).1.perform (.removeAt .column 5)).1
    grid.hasCell ⟨3, 1⟩ = true ∧ grid.StaysInside := by
  refine ⟨by decide, ?_⟩
  exact Reachable.staysInside (.performed (.performed (.performed (.blank ..) _) _) _)

end Grid

end Spreadsheet
