import Spreadsheet.Grid.Display
import Spreadsheet.Proofs.Address.Canonical
import Spreadsheet.Proofs.Grid.Resolution

/-!
# Evaluating a cell and asking for it

The value of a cell can be worked out by itself, or it can be asked for under one of the cell's
many references with nothing under evaluation.  Either way the guard holds the cell while its
formula is evaluated, in the same room and with the same bound on links, so the answers are one,
also where they tell of a cycle.
-/

namespace Spreadsheet

namespace Source

variable {source : Source} {functions : Registry} {room : Nat} {name : Text} {c : Coord}

/-- A reference to a cell of the source, with nothing under evaluation, is answered with the value
of the cell. -/
theorem run_resolve_empty (inside : source.holds c = true)
    (decodes : Coord.decode name = .ok (some c)) :
    (source.resolve functions room name).run Guard.empty =
      (source.evaluateCell functions room c, Guard.empty) := by
  have free := Guard.not_contains_empty c
  rw [resolve, follow, run_answer, decodes, evaluateCell]
  dsimp only
  rw [inside, free, if_neg Bool.noConfusion, if_neg Bool.false_ne_true]
  cases Content.ofText (source.text c) with
  | empty => rfl
  | literal text => rfl
  | formula text =>
      have restored := run_evaluateFormula_restores (source.follow_restores functions room)
        functions room text (Guard.empty.enter c)
      dsimp only
      rw [Guard.run_during_of_restores free restored]

theorem exists_natCast_of_holds (inside : source.holds c = true) :
    ∃ row column : Nat, c = ⟨row, column⟩ := by
  simp only [holds, Bool.and_eq_true, decide_eq_true_eq] at inside
  obtain ⟨⟨⟨row, column⟩, -⟩, -⟩ := inside
  refine ⟨c.row.toNat, c.col.toNat, ?_⟩
  rw [Int.toNat_of_nonneg row, Int.toNat_of_nonneg column]

end Source

/-- For every cell of a grid, the value of the cell is what any reference to it is answered with
while nothing is under evaluation, and nothing is under evaluation afterwards.  If its row number
can be written, the cell has such a reference. -/
theorem Grid.resolve_eq_evaluateWith (grid : Grid) (functions : Registry) {c : Coord}
    (inside : grid.source.holds c = true) :
    (c.row.toNat + 1 < 10 ^ Text.digitLimit →
      ∃ name, c.name = .ok name ∧ Coord.decode name = .ok (some c)) ∧
    ∀ name, Coord.decode name = .ok (some c) →
      grid.resolve functions Guard.empty name = (grid.evaluateWith functions c, Guard.empty) := by
  refine ⟨fun short => ?_, fun name => Source.run_resolve_empty inside⟩
  obtain ⟨row, column, rfl⟩ := Source.exists_natCast_of_holds inside
  rw [Int.toNat_natCast] at short
  have named := @Coord.name_of_short row column ((Text.length_ofNat_le_iff (by decide)).mpr short)
  exact ⟨_, named, Coord.decode_of_name named⟩

/-- Two cells that ask for one another, and a third one that asks for the first. -/
theorem Grid.resolve_eq_evaluateWith_circle :
    let grid : Grid := { (default : Grid) with
      cells := .ofEntries [(⟨0, 0⟩, "=B1".toList), (⟨0, 1⟩, "=A1".toList),
        (⟨1, 0⟩, "=A1+1".toList)] }
    grid.resolve .builtins Guard.empty "Sheet1!$a$1".toList =
        (.ok (.error .cycle), Guard.empty) ∧
      grid.resolve .builtins Guard.empty " a02 ".toList = (.ok (.error .cycle), Guard.empty) := by
  intro grid
  have first := (grid.resolve_eq_evaluateWith .builtins (c := ⟨0, 0⟩) (by decide)).2
    "Sheet1!$a$1".toList (by decide +kernel)
  have third := (grid.resolve_eq_evaluateWith .builtins (c := ⟨1, 0⟩) (by decide)).2
    " a02 ".toList (by decide +kernel)
  have values : grid.evaluateWith .builtins ⟨0, 0⟩ = .ok (.error .cycle) ∧
      grid.evaluateWith .builtins ⟨1, 0⟩ = .ok (.error .cycle) := by decide +kernel
  rw [first, third, values.1, values.2]
  exact ⟨rfl, rfl⟩

end Spreadsheet
