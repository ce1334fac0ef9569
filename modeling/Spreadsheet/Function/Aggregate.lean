import Spreadsheet.Function.Call

/-!
# Aggregates

Sum, average, minimum, maximum and count go through the items of all arguments.
The first four fail with the first item that is an error code.  Count passes
over the arguments that fail and counts a cell of a range even when it is part
of a cycle.
-/

namespace Spreadsheet.Function

/-- The sum of all numbers, added up from the left. -/
def sum : FunctionBody := fun call =>
  call.foldAll (· + ·) (.zero false)

/-- The sum of all numbers over how many there are, and zero if there are
none. -/
def average : FunctionBody := fun call => do
  let (total, count) ←
    call.foldAll (fun (total, count) value => (total + value, count + 1))
      (Number.zero false, 0)
  pure (if count = 0 then .zero false else total / .ofNat count)

/-- The extreme of all numbers under a choice between an earlier and a later
one, and zero if there are none. -/
def extreme (choose : Number → Number → Number) : FunctionBody := fun call => do
  let best ← call.within Nesting.collection fun inner =>
    inner.foldAll (fun best value =>
      match best with
      | none => some value
      | some earlier => some (choose earlier value)) none
  pure (best.getD (.zero false))

/-- The smallest number. -/
def min : FunctionBody := extreme Number.earlierMin

/-- The largest number. -/
def max : FunctionBody := extreme Number.earlierMax

/-- Whether an item counts, in a range or alone. -/
def counts (inRange : Bool) : CellValue → Bool
  | .number _ => true
  | .error code => inRange && code == .cycle

/-- How many items count. -/
def count : FunctionBody := fun call => do
  let total ← call.arguments.foldlM (fun total argument => do
    let range ← Call.range? argument
    call.foldItems (fun total item =>
      pure (if counts range.isSome item then total + 1 else total)) total argument) 0
  pure (.ofNat total)

end Spreadsheet.Function
