import Spreadsheet.Function.Call

/-!
# Logic

A condition is a number; it is false when it counts as zero.  The functions
evaluate no more than they need: a choice evaluates only the branch it takes,
and a conjunction or disjunction stops at the first argument that decides it.
-/

namespace Spreadsheet.Function

/-- The truth values as numbers. -/
def truth (holds : Bool) : Number :=
  if holds then .ofNat 1 else .zero false

/-- Choose between the two branches of a condition.  The branch for a true one
must not be blank, and the branch for a false one is zero when it is left
out. -/
def choose (call : Call) (condition whenTrue : Text) (whenFalse : Option Text) :
    Query Number := do
  let value ← call.evaluate condition
  if whenTrue.isEmpty then Query.error .blankChoice
  else if value.isSignificant then call.evaluate whenTrue
  else
    match whenFalse with
    | some text => call.evaluate text
    | none => pure (.zero false)

/-- A condition, a value for when it is true, and perhaps one for when it is
false. -/
def ifThen : FunctionBody := fun call =>
  match call.arguments with
  | [condition, whenTrue] => choose call condition whenTrue none
  | [condition, whenTrue, whenFalse] => choose call condition whenTrue (some whenFalse)
  | arguments => .error (.wrongCount "IF".toList 2 3 arguments.length)

/-- Evaluate arguments until one of them decides. -/
def decideBy (call : Call) (decides : Number → Bool) (decision : Bool) :
    List Text → Query Number
  | [] => .done (truth (!decision))
  | argument :: rest => do
      let value ← call.evaluate argument
      if decides value then pure (truth decision) else decideBy call decides decision rest

/-- Whether no argument counts as zero. -/
def and : FunctionBody := fun call =>
  decideBy call Number.isNegligible false call.arguments

/-- Whether some argument is certainly not zero. -/
def or : FunctionBody := fun call =>
  decideBy call Number.isSignificant true call.arguments

/-- Whether the one argument counts as zero. -/
def not : FunctionBody := fun call =>
  match call.arguments with
  | [argument] => do
      let value ← call.evaluate argument
      pure (truth value.isNegligible)
  | arguments => .error (.wrongCount "NOT".toList 1 1 arguments.length)

end Spreadsheet.Function
