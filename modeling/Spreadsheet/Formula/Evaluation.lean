import Spreadsheet.Formula.Basic
import Spreadsheet.Query

/-!
# Evaluating a formula

A formula is evaluated from left to right, each operand before the operation
that takes it, and the first failure ends the evaluation.  The work of a call is
a parameter.  Signs, parentheses and references take their shares of the room;
the operands of an operation lie beside one another and not inside.
-/

namespace Spreadsheet

/-- The number with the sign put before it. -/
def Sign.apply : Sign → Number → Number
  | plus, operand => operand
  | minus, operand => -operand

/-- The result of an operation.  Dividing by a number that counts as zero is a
failure. -/
def Operator.apply : Operator → Number → Number → Query Number
  | add, left, right => .done (left + right)
  | sub, left, right => .done (left - right)
  | mul, left, right => .done (left * right)
  | div, left, right =>
      if right.isNegligible then .error (.zeroDivisor right) else .done (left / right)

namespace Formula

/-- The value of a formula in the room that is left, where `call` does the work
of a call. -/
def evaluate (call : Nat → Text → List Text → Query Number) :
    Nat → Formula → Query Number
  | _, number value => .done value
  | room, reference name =>
      Query.within Nesting.reference room fun rest =>
        Query.request rest name >>= Query.number
  | room, signed sign operand =>
      Query.within Nesting.sign room fun rest =>
        sign.apply <$> evaluate call rest operand
  | room, binary operator left right => do
      let first ← evaluate call room left
      let second ← evaluate call room right
      operator.apply first second
  | room, group inner => Query.within Nesting.group room fun rest => evaluate call rest inner
  | room, .call function arguments => call room function arguments
  | _, broken cause => .error cause
  | room, halted start cause => do
      let _ ← evaluate call room start
      Query.error cause

end Formula

end Spreadsheet
