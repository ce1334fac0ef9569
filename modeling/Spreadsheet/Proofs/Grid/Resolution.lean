import Spreadsheet.Grid.Recalculation
import Spreadsheet.Proofs.Address.CoordMap
import Spreadsheet.Proofs.Function.Room
import Spreadsheet.Proofs.Query.Run

/-!
# Resolving references

A reference to a formula cell is resolved by evaluating the formula, whose own
references are resolved in the same way while the guard holds the cell.  With
pure functions this equation needs no bound on the links from cell to cell: each
of them takes some room, and the bound is more than there is room for.  However
an evaluation ends, the guard is as it was before.
-/

namespace Spreadsheet

namespace Guard

variable {guard : Guard} {c d : Coord}

theorem contains_enter (guard : Guard) (c d : Coord) :
    (guard.enter c).contains d = true ↔ d = c ∨ guard.contains d = true :=
  CoordMap.contains_insert guard.active c () d

theorem not_contains_empty (c : Coord) : Guard.empty.contains c = false :=
  rfl

theorem contains_leave (guard : Guard) (c d : Coord) :
    (guard.leave c).contains d = true ↔ d ≠ c ∧ guard.contains d = true :=
  CoordMap.contains_erase guard.active c d

theorem leave_enter (free : guard.contains c = false) : (guard.enter c).leave c = guard :=
  congrArg Guard.mk (CoordMap.erase_insert free ())

theorem run_during {α : Type} (c : Coord) (inner : Guarded α) (guard : Guard) :
    (during c inner).run guard =
      ((inner.run (guard.enter c)).1, (inner.run (guard.enter c)).2.leave c) :=
  rfl

/-- Holding a free coordinate for the time of an evaluation that restores the
guard restores the guard. -/
theorem run_during_of_restores {α : Type} {inner : Guarded α}
    (free : guard.contains c = false)
    (restored : (inner.run (guard.enter c)).2 = guard.enter c) :
    (during c inner).run guard = ((inner.run (guard.enter c)).1, guard) := by
  rw [run_during, restored, leave_enter free]

end Guard

namespace Source

variable {source : Source} {functions : Registry} {guard : Guard} {name text : Text}
  {c : Coord}

private theorem run_get_bind {α : Type} (rest : Guard → Guarded α) (guard : Guard) :
    (get >>= rest).run guard = (rest guard).run guard :=
  rfl

theorem run_answer (source : Source) (evaluate : Coord → Text → Guarded CellValue)
    (name : Text) (guard : Guard) :
    (source.answer evaluate name).run guard =
      match Coord.decode name with
      | .error _ => (.error .rowTooLong, guard)
      | .ok none => (.ok (.error .ref), guard)
      | .ok (some c) =>
          if source.holds c = false then (.ok (.error .ref), guard)
          else if guard.contains c = true then (.ok (.error .cycle), guard)
          else
            match Content.ofText (source.text c) with
            | .empty => (.ok (.number (.zero false)), guard)
            | .formula formula => (evaluate c formula).run guard
            | .literal literal => (.ok (.ofLiteral literal), guard) := by
  rw [answer]
  cases Coord.decode name with
  | error fault => rfl
  | ok named =>
      cases named with
      | none => rfl
      | some c =>
          dsimp only
          cases source.holds c with
          | false => rfl
          | true =>
              simp only [Bool.not_true, Bool.true_eq_false, Bool.false_eq_true, if_false,
                run_get_bind]
              split
              · rfl
              · cases Content.ofText (source.text c) <;> rfl

/-- The reference leads into a formula cell that is not under evaluation. -/
structure Enters (source : Source) (guard : Guard) (name : Text) (c : Coord)
    (formula : Text) : Prop where
  decodes : Coord.decode name = .ok (some c)
  holds : source.holds c = true
  free : guard.contains c = false
  content : Content.ofText (source.text c) = .formula formula

/-- A reference that leads into a formula cell has the value of the formula. -/
theorem answer_of_enters (enters : source.Enters guard name c text)
    (evaluate : Coord → Text → Guarded CellValue) :
    (source.answer evaluate name).run guard = (evaluate c text).run guard := by
  rw [run_answer, enters.decodes]
  simp only [enters.holds, enters.free, enters.content, Bool.true_eq_false, Bool.false_eq_true,
    if_false]

/-- Any other reference has its answer at once, whatever formulas are worth. -/
theorem answer_cases (source : Source) (guard : Guard) (name : Text) :
    (∃ c formula, source.Enters guard name c formula) ∨
      (∃ value, ∀ evaluate, (source.answer evaluate name).run guard = (.ok value, guard)) ∨
        (∃ fault, Coord.decode name = .error fault) ∧
          ∀ evaluate, (source.answer evaluate name).run guard = (.error .rowTooLong, guard) := by
  simp only [run_answer]
  cases decodes : Coord.decode name with
  | error fault => exact .inr (.inr ⟨⟨fault, rfl⟩, fun _ => rfl⟩)
  | ok named =>
      cases named with
      | none => exact .inr (.inl ⟨_, fun _ => rfl⟩)
      | some c =>
          dsimp only
          cases holds : source.holds c with
          | false => exact .inr (.inl ⟨_, fun _ => rfl⟩)
          | true =>
              cases free : guard.contains c with
              | true => exact .inr (.inl ⟨_, fun _ => rfl⟩)
              | false =>
                  cases content : Content.ofText (source.text c) with
                  | empty => exact .inr (.inl ⟨_, fun _ => rfl⟩)
                  | literal literal => exact .inr (.inl ⟨_, fun _ => rfl⟩)
                  | formula formula =>
                      exact .inl ⟨c, formula, decodes, holds, free, content⟩

theorem run_evaluateFormula (functions : Registry) (room : Nat)
    (resolver : Nat → Text → Guarded CellValue) (formula : Text) (guard : Guard) :
    (evaluateFormula functions room resolver formula).run guard =
      ((((functions.query room formula).run resolver).run guard).1 >>= CellValue.ofOutcome,
        (((functions.query room formula).run resolver).run guard).2) := by
  rw [evaluateFormula]
  rcases ended : ((functions.query room formula).run resolver).run guard with
    ⟨escape | ending, after⟩
  · exact Guarded.run_bind_of_error ended
  · rw [Guarded.run_bind_of_ok ended]
    dsimp only [bind, Except.bind]
    cases CellValue.ofOutcome ending <;> rfl

theorem run_evaluateFormula_restores {resolver : Nat → Text → Guarded CellValue}
    (restores : Query.Restores resolver) (functions : Registry) (room : Nat) (formula : Text)
    (guard : Guard) :
    ((evaluateFormula functions room resolver formula).run guard).2 = guard := by
  rw [run_evaluateFormula]
  exact Query.run_restores restores _ guard

/-- A reference is resolved with the guard as it was, if formulas are evaluated
so. -/
theorem answer_restores {evaluate : Coord → Text → Guarded CellValue}
    (restores : ∀ c formula guard, guard.contains c = false →
      ((evaluate c formula).run guard).2 = guard)
    (source : Source) (name : Text) (guard : Guard) :
    ((source.answer evaluate name).run guard).2 = guard := by
  rcases source.answer_cases guard name with
    ⟨c, formula, enters⟩ | ⟨value, answered⟩ | ⟨_, escaped⟩
  · rw [answer_of_enters enters]
    exact restores c formula guard enters.free
  · rw [answered]
  · rw [escaped]

/-- However many links are followed, the guard is as it was. -/
theorem follow_restores (source : Source) (functions : Registry) (links : Nat) :
    Query.Restores (source.follow functions links) := by
  induction links with
  | zero => exact fun room => answer_restores (fun _ _ _ _ => rfl) source
  | succ links inductionHypothesis =>
      intro room
      apply answer_restores
      intro c formula guard free
      rw [Guard.run_during_of_restores free]
      exact run_evaluateFormula_restores inductionHypothesis functions room formula _

/-- Whatever a reference leads into, and however that ends, the guard is as it
was. -/
theorem resolve_restores (source : Source) (functions : Registry) :
    Query.Restores (source.resolve functions) :=
  fun room => source.follow_restores functions (room + 1) room

section Pure

variable (pure : functions.Pure)

include pure

/-- Evaluating a formula takes only answers in less room. -/
theorem evaluateFormula_congr {resolver resolver' : Nat → Text → Guarded CellValue}
    (room : Nat) (same : ∀ rest, rest < room → resolver rest = resolver' rest)
    (formula : Text) :
    evaluateFormula functions room resolver formula =
      evaluateFormula functions room resolver' formula := by
  have agree : (functions.query room formula).run resolver =
      (functions.query room formula).run resolver' :=
    Query.run_congr <| (Registry.query_below pure room formula).mono
      (fun rest name less => congrFun (same rest less) name) fun _ failing => failing
  rw [evaluateFormula, evaluateFormula, agree]

/-- The bound on links never ends an evaluation. -/
theorem follow_eq_resolve (source : Source) {links room : Nat} (enough : room < links) :
    source.follow functions links room = source.resolve functions room := by
  induction room using Nat.strongRecOn generalizing links with
  | _ room inductionHypothesis =>
      obtain ⟨links, rfl⟩ := Nat.exists_eq_add_of_lt enough
      funext name
      rw [resolve, follow, follow]
      congr 1
      funext c formula
      congr 1
      refine evaluateFormula_congr pure room (fun rest less => ?_) formula
      rw [inductionHypothesis rest less (by omega), inductionHypothesis rest less less]

theorem resolve_eq (source : Source) (room : Nat) (name : Text) :
    source.resolve functions room name =
      source.answer (fun c formula => Guard.during c
        (evaluateFormula functions room (source.resolve functions) formula)) name := by
  rw [resolve, follow]
  congr 1
  funext c formula
  congr 1
  exact evaluateFormula_congr pure room (fun rest => source.follow_eq_resolve pure) formula

theorem evaluateCell_eq (source : Source) (room : Nat) {c : Coord} {formula : Text}
    (content : Content.ofText (source.text c) = .formula formula) :
    source.evaluateCell functions room c =
      ((evaluateFormula functions room (source.resolve functions) formula).run
        (Guard.empty.enter c)).1 := by
  have agree : evaluateFormula functions room (source.follow functions room) formula =
      evaluateFormula functions room (source.resolve functions) formula :=
    evaluateFormula_congr pure room (fun rest => source.follow_eq_resolve pure) formula
  rw [evaluateCell, content]
  dsimp only
  rw [agree, Guard.run_during]

theorem run_resolve_of_enters (room : Nat) (enters : source.Enters guard name c text) :
    (source.resolve functions room name).run guard =
      (((evaluateFormula functions room (source.resolve functions) text).run
        (guard.enter c)).1, guard) := by
  rw [resolve_eq pure, answer_of_enters enters, Guard.run_during_of_restores enters.free]
  exact run_evaluateFormula_restores (source.resolve_restores functions) _ _ _ _

end Pure

end Source

end Spreadsheet
