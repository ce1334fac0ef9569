import Spreadsheet.Text.Uppercase
import Spreadsheet.Text.Quoted

/-!
# Error codes

A formula that has no number for a result has one of four error codes.  A code
is known by its display text, in any case and with white space around it.
-/

namespace Spreadsheet

/-- The four error values of a cell. -/
inductive ErrorCode where
  /-- A reference that names no cell of the grid. -/
  | ref
  /-- A division by a number that counts as zero. -/
  | div0
  /-- A cell that depends on itself. -/
  | cycle
  /-- Anything else that is wrong with a formula. -/
  | err
  deriving DecidableEq

namespace ErrorCode

/-- The display text of a code. -/
def text : ErrorCode → Text
  | ref => "#REF".toList
  | div0 => "#DIV/0".toList
  | cycle => "#CYCLE".toList
  | err => "#ERR".toList

/-- All codes, in their customary order. -/
def all : List ErrorCode := [ref, div0, cycle, err]

/-- The code that a text stands for, if any. -/
def ofText? (t : Text) : Option ErrorCode :=
  all.find? fun code => code.text == Text.upper t.strip

/-- Whether a text, up to its case, is the display text of the code. -/
def isWrittenAs (code : ErrorCode) (t : Text) : Bool :=
  code.text == t.upper

/-- Whether a value is the display text of the code; a value that is no text,
given as nothing, is not. -/
def equals (code : ErrorCode) : Option Text → Bool
  | some t => code.isWrittenAs t
  | none => false

/-- The code with its type, as it stands in a listing of values. -/
def description (code : ErrorCode) : String :=
  "CellError(" ++ String.ofList code.text.quoted ++ ")"

/-- The wording for a text that stands for no code. -/
def unknownMessage (t : Text) : String :=
  "Unknown error code: " ++ String.ofList t.quoted

/-- Every display text stands for its own code. -/
theorem ofText?_text (code : ErrorCode) : ofText? code.text = some code := by
  cases code <;> decide

/-- Codes with one display text are one code. -/
theorem text_injective {first second : ErrorCode} (same : first.text = second.text) :
    first = second := by
  have read := congrArg ofText? same
  simpa [ofText?_text] using read

/-- The codes among `codes`, each once, in the alphabetical order of their
texts. -/
def distinct (codes : List ErrorCode) : List ErrorCode :=
  [cycle, div0, err, ref].filter codes.contains

end ErrorCode

end Spreadsheet
