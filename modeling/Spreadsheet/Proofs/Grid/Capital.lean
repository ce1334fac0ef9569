import Spreadsheet.Proofs.Function.Capital
import Spreadsheet.Proofs.Grid.Resolution

/-!
# Formulas in any case

Two formulas that are the same in capitals have the same value, in every source of
texts and under every guard.  Their conversations ask for the same cells, a source
answers both questions alike, and what may be different in the causes of failures is
not part of a value.
-/

namespace Spreadsheet

namespace Source

theorem resolve_eq_of_decode_eq (source : Source) (functions : Registry) (room : Nat)
    {name name' : Text} (same : Coord.decode name = Coord.decode name') :
    source.resolve functions room name = source.resolve functions room name' := by
  simp only [resolve, follow, answer, same]

/-- A formula in capitals has the same value. -/
theorem evaluateFormula_capitals (source : Source) (guard : Guard) (room : Nat) (text : Text) :
    (evaluateFormula .builtins room (source.resolve .builtins) text).run guard =
      (evaluateFormula .builtins room (source.resolve .builtins) text.capitals).run guard := by
  have restores := source.resolve_restores .builtins
  have answers : ∀ room name room' name', Likeness.caseless.asks room name room' name' →
      (source.resolve .builtins room name).run guard =
        (source.resolve .builtins room' name').run guard := by
    rintro room name _ name' ⟨rfl, same⟩
    rw [source.resolve_eq_of_decode_eq .builtins room same]
  have fails : ∀ failure other, Likeness.caseless.fails failure other →
      CellValue.ofOutcome (.error failure) = CellValue.ofOutcome (.error other) := by
    rintro failure other ⟨-, value⟩
    exact value
  have alike := Registry.query_capitals Registry.builtins_respects room text
  have values := alike.map_run_eq CellValue.ofOutcome restores id fails answers
  have bind_ofOutcome (ending : Except Escape (Except Failure Number)) :
      ending >>= CellValue.ofOutcome = (CellValue.ofOutcome <$> ending) >>= id := by
    cases ending <;> rfl
  rw [run_evaluateFormula, run_evaluateFormula, bind_ofOutcome, values, ← bind_ofOutcome,
    Query.run_restores restores, Query.run_restores restores]

/-- Formulas that differ only in the case of their ASCII letters have the same value
and leave the same guard. -/
theorem evaluateFormula_caseless (source : Source) (guard : Guard) (room : Nat)
    {text text' : Text} (same : text.capitals = text'.capitals) :
    (evaluateFormula .builtins room (source.resolve .builtins) text).run guard =
      (evaluateFormula .builtins room (source.resolve .builtins) text').run guard := by
  rw [evaluateFormula_capitals, same, ← evaluateFormula_capitals]

/-- Two cells beside one another, the second with the value of the first. -/
def twoCells : Source where
  rows := 1
  columns := 2
  text c := if c = ⟨0, 0⟩ then "3".toList else "=a1".toList

/-- Functions, exponents, references, the corners of ranges and the names of their sheets
may be written in any case. -/
theorem evaluateFormula_caseless_mixed :
    (evaluateFormula .builtins 50 (twoCells.resolve .builtins)
        "sum(sheet!a1:$B$1)*1e1+b1".toList).run .empty =
      (.ok (.number (.ofNat 63)), .empty) ∧
    (evaluateFormula .builtins 50 (twoCells.resolve .builtins)
        "SuM(Sheet!A1:$b$1)*1E1+B1".toList).run .empty =
      (.ok (.number (.ofNat 63)), .empty) := by
  have value : (evaluateFormula .builtins 50 (twoCells.resolve .builtins)
      "sum(sheet!a1:$B$1)*1e1+b1".toList).run .empty = (.ok (.number (.ofNat 63)), .empty) :=
    Prod.ext (by decide +kernel)
      (run_evaluateFormula_restores (twoCells.resolve_restores .builtins) _ _ _ _)
  have same : Text.capitals "sum(sheet!a1:$B$1)*1e1+b1".toList =
      Text.capitals "SuM(Sheet!A1:$b$1)*1E1+B1".toList := by decide
  exact ⟨value, (evaluateFormula_caseless twoCells .empty 50 same).symm.trans value⟩

end Source

end Spreadsheet
