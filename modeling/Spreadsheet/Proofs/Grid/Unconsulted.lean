import Spreadsheet.Proofs.Grid.Resolution

/-!
# Texts that are not consulted

A reference is checked against the extent and against the guard before a text is
read.  So what stands beyond the extent or in a cell under evaluation has no part
in any answer: two sources that agree on the rest cannot be told apart, however
deep evaluations are nested and whatever the functions do with their arguments.
-/

namespace Spreadsheet

namespace Source

/-- The sources have the same extent, and the same text in every cell inside it
that the guard does not hold. -/
structure AgreeOutside (guard : Guard) (source source' : Source) : Prop where
  rows : source.rows = source'.rows
  columns : source.columns = source'.columns
  text : ∀ c, source.holds c = true → guard.contains c = false →
    source.text c = source'.text c

namespace AgreeOutside

variable {guard : Guard} {source source' : Source}

theorem holds_eq (agree : AgreeOutside guard source source') (c : Coord) :
    source.holds c = source'.holds c := by
  rw [holds, holds, agree.rows, agree.columns]

/-- The more the guard holds, the less there is to agree on. -/
theorem enter (agree : AgreeOutside guard source source') (c : Coord) :
    AgreeOutside (guard.enter c) source source' where
  rows := agree.rows
  columns := agree.columns
  text := by
    intro d holds free
    apply agree.text d holds
    apply Bool.eq_false_iff.mpr
    intro held
    rw [(guard.contains_enter c d).mpr (.inr held)] at free
    cases free

/-- A reference has the same answer, if formulas have the same value in the cells
that the guard does not hold yet. -/
theorem run_answer_eq (agree : AgreeOutside guard source source')
    {evaluate evaluate' : Coord → Text → Guarded CellValue}
    (same : ∀ c formula, (evaluate c formula).run guard = (evaluate' c formula).run guard)
    (name : Text) :
    (source.answer evaluate name).run guard = (source'.answer evaluate' name).run guard := by
  rw [run_answer, run_answer]
  cases Coord.decode name with
  | error fault => rfl
  | ok named =>
      cases named with
      | none => rfl
      | some c =>
          dsimp only
          rw [← agree.holds_eq c]
          cases holds : source.holds c with
          | false => rfl
          | true =>
              cases held : guard.contains c with
              | true => rfl
              | false =>
                  -- The text is read only here, where the two must agree on it.
                  rw [← agree.text c holds held]
                  cases Content.ofText (source.text c) with
                  | empty => rfl
                  | literal literal => rfl
                  | formula formula => exact same c formula

/-- Following links keeps to the cells on which the sources agree. -/
theorem run_follow_eq (functions : Registry) (links : Nat) {guard : Guard}
    (agree : AgreeOutside guard source source') (room : Nat) (name : Text) :
    (source.follow functions links room name).run guard =
      (source'.follow functions links room name).run guard := by
  induction links generalizing guard room name with
  | zero => exact agree.run_answer_eq (fun _ _ => rfl) name
  | succ links inductionHypothesis =>
      refine agree.run_answer_eq (fun c formula => ?_) name
      have inner := Query.run_eq_of_agree (source.follow_restores functions links)
        (fun rest asked => inductionHypothesis (agree.enter c) rest asked)
        (functions.query room formula)
      rw [Guard.run_during, Guard.run_during, run_evaluateFormula, run_evaluateFormula, inner]

end AgreeOutside

/-- What a reference is worth, and the guard after it, depend on the extent and on
the texts inside it that the guard does not hold, and on nothing else in the
source. -/
theorem resolve_unconsulted {guard : Guard} {source source' : Source}
    (agree : AgreeOutside guard source source') (functions : Registry) (room : Nat)
    (name : Text) :
    (source.resolve functions room name).run guard =
      (source'.resolve functions room name).run guard :=
  agree.run_follow_eq functions (room + 1) room name

/-- Three cells one below the other; `held` is in the last one, and `beyond` is all
around them. -/
def threeCells (held beyond : Text) : Source where
  rows := 3
  columns := 1
  text c :=
    if c = ⟨0, 0⟩ then "=COUNT(A2:A4)".toList
    else if c = ⟨1, 0⟩ then "5".toList
    else if c = ⟨2, 0⟩ then held
    else beyond

/-- A held cell counts as a part of a cycle and one beyond the extent does not count,
whatever stands there. -/
theorem resolve_unconsulted_threeCells :
    ((threeCells "=A1".toList []).resolve .builtins 50 "A1".toList).run
        (Guard.empty.enter ⟨2, 0⟩) =
      (.ok (.number (.ofNat 2)), Guard.empty.enter ⟨2, 0⟩) ∧
    ((threeCells "7".toList "8".toList).resolve .builtins 50 "A1".toList).run
        (Guard.empty.enter ⟨2, 0⟩) =
      (.ok (.number (.ofNat 2)), Guard.empty.enter ⟨2, 0⟩) := by
  have agree : AgreeOutside (Guard.empty.enter ⟨2, 0⟩) (threeCells "=A1".toList [])
      (threeCells "7".toList "8".toList) := by
    refine ⟨rfl, rfl, ?_⟩
    rintro ⟨row, col⟩ holds free
    simp only [Source.holds, Bool.and_eq_true, decide_eq_true_eq] at holds
    simp only [threeCells] at holds
    obtain rfl : col = 0 := by omega
    obtain rfl | rfl | rfl : row = 0 ∨ row = 1 ∨ row = 2 := by omega
    · rfl
    · rfl
    · exact absurd free (by decide)
  have value : ((threeCells "=A1".toList []).resolve .builtins 50 "A1".toList).run
      (Guard.empty.enter ⟨2, 0⟩) =
        (.ok (.number (.ofNat 2)), Guard.empty.enter ⟨2, 0⟩) :=
    Prod.ext (by decide +kernel) (resolve_restores _ .builtins 50 "A1".toList _)
  constructor
  · exact value
  · exact (resolve_unconsulted agree .builtins 50 "A1".toList).symm.trans value

end Source

end Spreadsheet
