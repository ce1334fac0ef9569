import Spreadsheet.Proofs.Address.Digits
import Spreadsheet.Proofs.Grid.Appended

/-!
# What a refusal leaves behind

A grid looks at the place and at the value that it is given before it changes anything,
so what is refused changes nothing.  Only a bulk write does: it is a list of writes, one
for each value of the block in row-major order, and those before the first that is
refused are kept.  Appending is a bulk write too, but into cells that are never negative,
so that all it can be refused for is a value without a text; the values before it are
kept, and the row is not counted.

A run therefore ends where it would have ended without the operations that have been
refused, if of a bulk write what came before the refusal is done all the same.
-/

namespace Spreadsheet

namespace Grid

variable {grid : Grid} {c : Coord} {value : HostValue} {refusal : GridError}
  {writes : List (Coord × HostValue)} {row column : Int}
  {block : List (List (Option HostValue))}

/-! ## One write -/

/-- A write, as an operation of its own. -/
def store (write : Coord × HostValue) : Operation :=
  .access write.1 (some write.2)

end Grid

/-! ## Requests -/

/-- What a host program can ask of a grid that may refuse it: an operation, or to look
a cell up by its key. -/
inductive Request where
  | operation (operation : Operation)
  | getKey (key : Text)
  | hasKey (key : Text)

namespace Request

/-- The values that are to be stored, and where. -/
def writes (grid : Grid) : Request → List (Coord × HostValue)
  | operation (.setCell c text) => [(c, .text text)]
  | operation (.access c (some value)) => [(c, value)]
  | operation (.setKey key (some value)) =>
      match Grid.coordOf key with
      | .ok c => [(c, value)]
      | .error _ => []
  | operation (.append values) => Grid.rowWrites grid.appendRow 0 values
  | operation (.writeRows row column block) => Grid.blockWrites row column block
  | _ => []

end Request

namespace Grid

variable {grid : Grid} {request : Request} {operation : Operation} {refusal : GridError}

/-- The grid after a request, and what the request was refused for. -/
def serve (grid : Grid) : Request → Grid × Option GridError
  | .operation operation => grid.perform operation
  | .getKey key => Operation.settle grid ((fun _ => grid) <$> grid.getKey key)
  | .hasKey key => Operation.settle grid ((fun _ => grid) <$> grid.hasKey key)

end Grid

end Spreadsheet
