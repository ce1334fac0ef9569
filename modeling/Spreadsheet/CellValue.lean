import Spreadsheet.Failure
import Spreadsheet.Text.Digit
import Spreadsheet.Number.Decimal
import Spreadsheet.Number.Numeral

/-!
# Values of cells

The value of a cell is a number or an error code.  Literal text is a number when
it can be read as one, padding and digit separators being refused, and an error
otherwise.  On display an error shows its code, and so does a number that is not
finite.
-/

namespace Spreadsheet

/-- The value of a cell, of a range's cell, or of an expression. -/
inductive CellValue where
  | number (value : Number)
  | error (code : ErrorCode)
  deriving DecidableEq

namespace CellValue

/-- The value of literal text. -/
def ofLiteral (t : Text) : CellValue :=
  if t.strip != t || t.contains '_' then .error .err
  else
    match Number.ofText? (Text.asciiDigits t) with
    | some value => .number value
    | none => .error .err

/-- The number, or the failure that stands for the error code. -/
def unwrap : CellValue → Except Cause Number
  | .number value => .ok value
  | .error code => .error (.answered code)

/-- The text shown for a value. -/
def display : CellValue → Text
  | .number value =>
      match value.numeral with
      | .ok text => text
      | .error _ => ErrorCode.err.text
  | .error code => code.text

end CellValue

end Spreadsheet
