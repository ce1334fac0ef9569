import Spreadsheet.Failure

/-!
# Formulas

A formula is a tree of numbers, references, signs, the four operations,
parentheses and calls.  Every text stands for a tree: where it goes wrong, the
tree has a node for the cause in the place where evaluation meets it, so the
failures of a malformed formula come in the same order as its values.
-/

namespace Spreadsheet

/-- A sign before an operand. -/
inductive Sign where
  | plus
  | minus
  deriving DecidableEq

/-- One of the four operations. -/
inductive Operator where
  | add
  | sub
  | mul
  | div
  deriving DecidableEq

/-- How tightly an operation binds its operands. -/
def Operator.strength : Operator → Nat
  | add => 1
  | sub => 1
  | mul => 2
  | div => 2

/-- What a text stands for.  A call keeps its arguments as the stripped texts
between its parentheses. -/
inductive Formula where
  | number (value : Number)
  | reference (name : Text)
  | signed (sign : Sign) (operand : Formula)
  | binary (operator : Operator) (left right : Formula)
  | group (inner : Formula)
  | call (function : Text) (arguments : List Text)
  /-- There should be an operand, and there is none to be read. -/
  | broken (cause : Cause)
  /-- A formula that is complete and then goes on with something it cannot. -/
  | halted (start : Formula) (cause : Cause)
  deriving DecidableEq

end Spreadsheet
