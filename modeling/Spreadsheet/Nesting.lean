/-!
# Room for nesting

An evaluation is nested: signs and parentheses hold operands, calls hold
arguments, and a reference holds the whole evaluation of the formula in the cell
that it names.  All that is open at one time draws on one allowance of room,
whichever cell it belongs to.  What is opened where less room is left than its
share is nested too deeply, and the formula around it fails.
-/

namespace Spreadsheet.Nesting

/-- The room for an evaluation that is not part of another. -/
def allowance : Nat := 990

/-- The share of a formula as a whole. -/
def formula : Nat := 4

/-- The share of a sign. -/
def sign : Nat := 1

/-- The share of a pair of parentheses. -/
def group : Nat := 5

/-- The share of a reference. -/
def reference : Nat := 2

/-- The share of finding the cell that a name stands for. -/
def lookup : Nat := 4

/-- The share of a call. -/
def call : Nat := 4

/-- The share of evaluating an argument as an expression. -/
def argument : Nat := 6

/-- The share of going through the items of an argument. -/
def items : Nat := 1

/-- The share of taking the numbers out of the items. -/
def numbers : Nat := 1

/-- The share of collecting the numbers of all arguments to choose one. -/
def collection : Nat := 1

/-- The room for the value of a cell that no other evaluation asks for. -/
def cellAllowance : Nat := allowance - lookup

end Spreadsheet.Nesting
