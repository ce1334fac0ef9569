import Spreadsheet.ErrorCode
import Spreadsheet.Number.Shortest
import Spreadsheet.Number.Integral

/-!
# Why an evaluation fails

A formula fails for one of a closed list of causes.  Each cause has an error
code, which is what the cell shows, and a detail for the reader of a message.
Two things are no causes: nesting beyond the allowance, which only the formula
as a whole turns into an error code, and what escapes from every evaluation, a
row number too long to be read and a host function that breaks down.
-/

namespace Spreadsheet

/-- What can go wrong in rounding to decimal places. -/
inductive RoundingFault where
  /-- The power of ten lies beyond the finite numbers. -/
  | powerTooLarge
  /-- The scaled value has no whole part. -/
  | noWhole (fault : Number.WholeFault)
  /-- The power of ten is zero. -/
  | powerIsZero
  deriving DecidableEq

/-- The wording of a rounding fault. -/
def RoundingFault.message : RoundingFault → String
  | .powerTooLarge => "(34, 'Numerical result out of range')"
  | .noWhole fault => fault.message
  | .powerIsZero => "float division by zero"

/-- Why a formula has no value. -/
inductive Cause where
  | endOfFormula
  | unexpectedChar (char : Char) (position : Nat)
  | unexpectedRest (rest : Text) (position : Nat)
  | missingParenthesis
  | badNumber (text : Text)
  | badReference (text : Text)
  | unterminatedArguments
  | unknownFunction (name : Text)
  | zeroDivisor (divisor : Number)
  | blankArgument
  | blankChoice
  | wrongCount (function : Text) (fewest most actual : Nat)
  | rounding (fault : RoundingFault)
  /-- A cell or an argument answered with an error code. -/
  | answered (code : ErrorCode)
  /-- A host function gave up with a code and a detail of its own. -/
  | host (code : ErrorCode) (detail : Text)
  deriving DecidableEq

namespace Cause

/-- The error code that a cause shows. -/
def code : Cause → ErrorCode
  | badReference _ => .ref
  | zeroDivisor _ => .div0
  | answered code => code
  | host code _ => code
  | _ => .err

/-- A text in quotation marks, for a message. -/
def quotedText (t : Text) : String :=
  String.ofList t.quoted

/-- The wording of a cause, empty where the code says it all. -/
def detail : Cause → String
  | endOfFormula => "unexpected end of formula"
  | unexpectedChar char position =>
      "unexpected " ++ quotedText [char] ++ " at " ++ toString position
  | unexpectedRest rest position =>
      "unexpected " ++ quotedText rest ++ " at " ++ toString position
  | missingParenthesis => "missing ')'"
  | badNumber text => "bad number " ++ quotedText text
  | badReference text => "bad reference " ++ quotedText text
  | unterminatedArguments => "unterminated argument list"
  | unknownFunction name => "unknown function " ++ String.ofList name
  | zeroDivisor divisor => "divisor " ++ String.ofList divisor.toText
  | blankArgument => "blank argument"
  | blankChoice => "IF: blank value-if-true"
  | wrongCount function fewest most actual =>
      String.ofList function ++ " takes " ++ toString fewest ++ "-" ++ toString most ++
        " arguments, got " ++ toString actual
  | rounding fault => "ROUND: " ++ fault.message
  | answered _ => ""
  | host _ detail => String.ofList detail

/-- The whole message: the code, and the detail behind it if there is one. -/
def message (cause : Cause) : String :=
  let codeText := String.ofList cause.code.text
  if cause.detail.isEmpty then codeText else codeText ++ ": " ++ cause.detail

end Cause

/-- What no evaluation turns into an error code. -/
inductive Escape where
  /-- A reference whose row number has too many digits. -/
  | rowTooLong
  /-- A host function broke down. -/
  | hostBreakdown (message : Text)
  deriving DecidableEq

/-- The wording of an escape; a row number that is too long has none. -/
def Escape.message? : Escape → Option String
  | .rowTooLong => none
  | .hostBreakdown message => some (String.ofList message)

/-- How an evaluation ends when it has no value. -/
inductive Failure where
  | error (cause : Cause)
  | tooDeep
  | escape (escape : Escape)
  deriving DecidableEq

end Spreadsheet
