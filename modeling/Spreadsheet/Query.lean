import Spreadsheet.CellValue
import Spreadsheet.Nesting

/-!
# Evaluations that ask for cells

Evaluating a formula asks for the values of cells by name and decides from the
answers what to ask next.  A `Query` is that whole conversation, with every
possible answer: it has a result, fails, or asks for one more name, with the room
that is left for finding the answer.  Two formulas with the same query ask for
the same names in the same order and end alike whoever answers.
-/

namespace Spreadsheet

/-- An evaluation with result in `α`, as a tree of questions. -/
inductive Query (α : Type) where
  | done (result : α)
  | fail (failure : Failure)
  | ask (room : Nat) (name : Text) (next : CellValue → Query α)

namespace Query

variable {α β γ : Type}

/-- Go on with the result; a failure ends the evaluation. -/
def bind : Query α → (α → Query β) → Query β
  | done result, rest => rest result
  | fail failure, _ => fail failure
  | ask room name next, rest => ask room name fun answer => (next answer).bind rest

instance : Monad Query where
  pure := done
  bind := bind

@[simp]
theorem bind_done (result : α) (rest : α → Query β) :
    (done result >>= rest) = rest result :=
  rfl

@[simp]
theorem bind_fail (failure : Failure) (rest : α → Query β) :
    (fail failure >>= rest) = fail failure :=
  rfl

@[simp]
theorem bind_ask (room : Nat) (name : Text) (next : CellValue → Query α)
    (rest : α → Query β) :
    (ask room name next >>= rest) = ask room name fun answer => next answer >>= rest :=
  rfl

theorem id_map (query : Query α) : id <$> query = query := by
  induction query with
  | done result => rfl
  | fail failure => rfl
  | ask room name next inductionHypothesis =>
      exact congrArg (ask room name) (funext inductionHypothesis)

theorem bind_assoc (query : Query α) (first : α → Query β) (second : β → Query γ) :
    query >>= first >>= second = query >>= fun result => first result >>= second := by
  induction query with
  | done result => rfl
  | fail failure => rfl
  | ask room name next inductionHypothesis =>
      exact congrArg (ask room name) (funext inductionHypothesis)

instance : LawfulMonad Query :=
  LawfulMonad.mk' Query id_map (fun _ _ => rfl) bind_assoc

/-- Fail for a cause. -/
def error (cause : Cause) : Query α :=
  fail (.error cause)

/-- Open something with a share of the room, and go on in the room that is left
after it. -/
def within (share room : Nat) (inner : Nat → Query α) : Query α :=
  if share ≤ room then inner (room - share) else fail .tooDeep

/-- Ask for one cell. -/
def request (room : Nat) (name : Text) : Query CellValue :=
  within Nesting.lookup room fun rest => ask rest name done

/-- The number of a cell value; an error code is a failure. -/
def number (value : CellValue) : Query Number :=
  match value.unwrap with
  | .ok result => done result
  | .error cause => error cause

/-- The evaluation with a failure for a cause turned into its error code.
Nesting beyond the allowance and escapes are not caught. -/
def caught : Query Number → Query CellValue
  | done result => done (.number result)
  | fail (.error cause) => done (.error cause.code)
  | fail failure => fail failure
  | ask room name next => ask room name fun answer => (next answer).caught

/-- Hold the conversation with somebody who answers in the room that is left. -/
def run {m : Type → Type} [Monad m] (resolver : Nat → Text → m CellValue) :
    Query α → m (Except Failure α)
  | done result => pure (.ok result)
  | fail failure => pure (.error failure)
  | ask room name next => do
      let answer ← resolver room name
      (next answer).run resolver

/-- The names asked for, in order, when `resolver` answers. -/
def requests (resolver : Text → CellValue) : Query α → List Text
  | done _ => []
  | fail _ => []
  | ask _ name next => name :: (next (resolver name)).requests resolver

/-- How the conversation ends when `resolver` answers. -/
def outcome (resolver : Text → CellValue) (query : Query α) : Except Failure α :=
  query.run (m := Id) fun _ name => resolver name

end Query

/-- The value that a finished evaluation gives its cell: a number that is not
finite is an error, and so is nesting beyond the allowance. -/
def CellValue.ofOutcome : Except Failure Number → Except Escape CellValue
  | .ok value => .ok (if value.isFinite then .number value else .error .err)
  | .error (.error cause) => .ok (.error cause.code)
  | .error .tooDeep => .ok (.error .err)
  | .error (.escape escape) => .error escape

end Spreadsheet
