import Spreadsheet.Grid.Display
import Spreadsheet.Proofs.Grid.Resolution
import Spreadsheet.Proofs.Number.Shown

/-!
# What formula cells show

The value of a formula is finite if it is a number, so a formula cell whose evaluation succeeds
shows a numeral, which no error code is.
-/

namespace Spreadsheet

/-- Only finite numbers are given to a cell. -/
theorem CellValue.isFinite_of_ofOutcome {ending : Except Failure Number} {x : Number}
    (value : ofOutcome ending = .ok (.number x)) : x.isFinite = true := by
  cases ending with
  | ok y =>
      cases finite : y.isFinite with
      | true =>
          simp only [ofOutcome, finite, if_true] at value
          cases value
          exact finite
      | false =>
          simp only [ofOutcome, finite] at value
          cases value
  | error failure => cases failure <;> cases value

theorem Source.isFinite_of_evaluateCell {source : Source} {functions : Registry} {room : Nat}
    {c : Coord} {formula : Text} {x : Number}
    (content : Content.ofText (source.text c) = .formula formula)
    (value : source.evaluateCell functions room c = .ok (.number x)) : x.isFinite = true := by
  rw [evaluateCell, content] at value
  dsimp only at value
  rw [Guard.run_during, run_evaluateFormula] at value
  cases ended : (((functions.query room formula).run
      (source.follow functions room)).run (Guard.empty.enter c)).1 with
  | error escape =>
      rw [ended] at value
      cases value
  | ok ending =>
      rw [ended] at value
      exact CellValue.isFinite_of_ofOutcome value

namespace Grid

theorem displayWith_of_numeral {grid : Grid} {functions : Registry} {c : Coord}
    {formula shown : Text} {x : Number}
    (content : Content.ofText (grid.text c) = .formula formula)
    (value : grid.evaluateWith functions c = .ok (.number x)) (numeral : x.numeral = .ok shown) :
    grid.displayWith functions c = .ok shown := by
  have evaluates : grid.source.evaluateCell functions Nesting.cellAllowance c =
      .ok (.number x) := value
  have isFormula : Content.ofText (grid.source.text c) = .formula formula := content
  simp only [displayWith, Source.display, isFormula, evaluates, bind, Except.bind, pure,
    Except.pure, CellValue.display, numeral]

/-- Every finite number is shown as a numeral without superfluous digits, and so is the value of
every formula cell that evaluates to a number.  Such a text is no error code.  There is a minus
sign before what is negative and before one zero only, the one that stands for the negative
numbers of at most half a millionth that are not within the tolerance. -/
theorem displayed_canonical (x : Number) :
    (x.isFinite = true → ∃ shown, x.numeral = .ok shown ∧ x.Shows shown) ∧
    ∀ (grid : Grid) (functions : Registry) (c : Coord) (formula : Text),
      Content.ofText (grid.text c) = .formula formula →
      grid.evaluateWith functions c = .ok (.number x) →
      ∃ shown, grid.displayWith functions c = .ok shown ∧ x.Shows shown ∧
        ∀ code : ErrorCode, shown ≠ code.text := by
  refine ⟨Number.exists_shows, ?_⟩
  intro grid functions c formula content value
  have finite : x.isFinite = true := Source.isFinite_of_evaluateCell content value
  obtain ⟨shown, numeral, shows⟩ := Number.exists_shows finite
  exact ⟨shown, displayWith_of_numeral content value numeral, shows, shows.canonical.ne_code⟩

/-- A ten-millionth below zero is shown as a negative zero, in a cell and by itself. -/
theorem displayed_canonical_negativeZero :
    let grid : Grid := { (default : Grid) with cells := .ofEntries [(⟨0, 0⟩, "=-1e-7".toList)] }
    let x : Number := Decimal.toNumber true ⟨1, -7⟩
    x.numeral = .ok "-0".toList ∧ x.ShownAsNegativeZero ∧
      grid.displayWith .builtins ⟨0, 0⟩ = .ok "-0".toList ∧
      ∀ code : ErrorCode, "-0".toList ≠ code.text := by
  intro grid x
  have written : x.numeral = .ok "-0".toList := by decide +kernel
  obtain ⟨shown, numeral, shows⟩ := (displayed_canonical x).1 (by decide +kernel)
  obtain rfl : shown = "-0".toList := Except.ok.inj (numeral.symm.trans written)
  have displayed : grid.displayWith .builtins ⟨0, 0⟩ = .ok "-0".toList := by decide +kernel
  obtain ⟨shown', display, -, codes⟩ := (displayed_canonical x).2 grid .builtins ⟨0, 0⟩
    "-1e-7".toList (by decide +kernel) (by decide +kernel)
  obtain rfl : shown' = "-0".toList := Except.ok.inj (display.symm.trans displayed)
  exact ⟨written, shows.negativeZero.mp rfl, displayed, codes⟩

end Grid

end Spreadsheet
