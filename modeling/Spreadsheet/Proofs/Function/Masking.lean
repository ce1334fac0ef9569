import Spreadsheet.Proofs.Formula.Continuation
import Spreadsheet.Proofs.Function.Evaluation
import Spreadsheet.Proofs.Query.Transcript

/-!
# Failures that later text cannot mask

A text that fails with `#REF`, `#DIV/0`, `#CYCLE`, or a code that a function has given up with,
goes on failing so when an operation and more text are written behind it, whatever that text is.
The failure `#ERR` is different: a formula that is not complete has it, and may be completed.
The functions may be any that go by their `Call`, which tells them nothing of what stands behind.
-/

namespace Spreadsheet

/-- A value that is an error code other than `#ERR` is that of a cause. -/
theorem CellValue.exists_cause {ending : Except Failure Number} {code : ErrorCode}
    (fails : ofOutcome ending = .ok (.error code)) (telling : code ≠ .err) :
    ∃ cause : Cause, ending = .error (.error cause) ∧ cause.code = code := by
  match ending, fails with
  | .ok value, fails =>
      simp only [ofOutcome] at fails
      split at fails
      · cases fails
      · cases fails
        exact absurd rfl telling
  | .error (.error cause), fails =>
      cases fails
      exact ⟨cause, rfl, rfl⟩
  | .error .tooDeep, fails =>
      cases fails
      exact absurd rfl telling

namespace Registry

open Query (recorded)

/-- The text of a formula foretells every text that goes on with an operation. -/
theorem query_foretells (functions : Registry) (room : Nat) (text after : Text)
    (operator : Operator) :
    Query.Foretells (functions.query room text)
      (functions.query room (text ++ ' ' :: operator.char :: after)) := by
  refine Query.Foretells.within fun rest => ?_
  have stacked : (text.foldl Reader.step Reader.start).Stacked :=
    Reader.Stacked.foldl_step (show Reader.start.Stacked from trivial) text
  rw [expression, expression, evaluate_succ, evaluate_succ, Formula.ofText, Formula.ofText,
    List.foldl_append]
  exact stacked.foretells operator after _ rest

/-- What stands behind a text cannot mask how the text fails.  Where a text fails with an error
code other than `#ERR`, it fails in the same way, after the same questions and answers, if an
operation follows and then any text at all.  The first text need not be a formula, the functions
may do anything with their calls, and whoever answers may have a state and escapes of their
own. -/
theorem failure_not_masked (functions : Registry) (room : Nat) (text after : Text)
    (operator : Operator) {ε σ : Type} {resolver : Nat → Text → ExceptT ε (StateM σ) CellValue}
    {state final : σ} {exchange : Exchange} {ending : Except Failure Number} {code : ErrorCode}
    (ends : (functions.query room text).hold (recorded resolver) (state, []) =
      (.ok ending, final, exchange))
    (fails : CellValue.ofOutcome ending = .ok (.error code)) (telling : code ≠ .err) :
    (functions.query room (text ++ ' ' :: operator.char :: ' ' :: after)).hold
      (recorded resolver) (state, []) = (.ok ending, final, exchange) := by
  obtain ⟨cause, rfl, rfl⟩ := CellValue.exists_cause fails telling
  exact functions.query_foretells room text (' ' :: after) operator ε (σ × Exchange)
    (recorded resolver) (state, []) (final, exchange) cause telling ends

/-- A division by zero in a group that is left open, and text behind it which closes more groups
than are open: both fail with the division, after asking for two cells. -/
theorem failure_not_masked_openGroup :
    let one : CellValue := .number (.ofNat 1)
    let answerOne : Nat → Text → ExceptT Empty (StateM Unit) CellValue := fun _ _ => pure one
    let ending : Except Empty (Except Failure Number) × Unit × Exchange :=
      (.ok (.error (.error (.zeroDivisor (.zero false)))), (),
        [("A1".toList, one), ("B1".toList, one)])
    (builtins.query 60 "A1-(B1/0".toList).hold (recorded answerOne) ((), []) = ending ∧
    (builtins.query 60 "A1-(B1/0 * 1)) C1(".toList).hold (recorded answerOne) ((), []) =
      ending := by
  intro one answerOne ending
  have fails : (builtins.query 60 "A1-(B1/0".toList).hold (recorded answerOne) ((), []) =
      ending := by decide +kernel
  exact ⟨fails, builtins.failure_not_masked 60 "A1-(B1/0".toList "1)) C1(".toList .mul fails rfl
    (by decide)⟩

end Registry

end Spreadsheet
