import Spreadsheet.Address.Column
import Spreadsheet.Text.Quoted

/-!
# Coordinates and their A1 names

A coordinate is a row and a column, both counted from zero.  A name like `B3`
is its column letters and its row number counted from one.  Reading a name drops
a sheet name up to the last `!`, the `$` marks, and surrounding white space; a
name that is not letters followed by a row number of at least one names no cell.
-/

namespace Spreadsheet

/-- A row and a column, counted from zero.  Requests may carry negative ones;
no cell lies there. -/
structure Coord where
  row : Int
  col : Int
  deriving DecidableEq

/-- A coordinate in a message, unless it has too many digits. -/
def Coord.description? (c : Coord) : Option Text := do
  let row ← Text.ofInt? c.row
  let col ← Text.ofInt? c.col
  pure ("(".toList ++ row ++ ", ".toList ++ col ++ ")".toList)

/-- What is wrong with an address. -/
inductive AddressError where
  | negativeRow (row : Int)
  | negativeColumn (column : Int)
  | notLetters (text : Text)
  | notReference (text : Text)
  /-- The row number has more digits than are read or written. -/
  | rowTooLong
  deriving DecidableEq

/-- The wording of an address error.  There is none where a number has too many
digits, be it the fault itself or part of the wording. -/
def AddressError.message? : AddressError → Option String
  | .negativeRow row =>
      (Text.ofInt? row).map fun digits =>
        "Row index must be non-negative: " ++ String.ofList digits
  | .negativeColumn column =>
      (Text.ofInt? column).map fun digits =>
        "Column index must be non-negative: " ++ String.ofList digits
  | .notLetters text =>
      some ("Invalid column letters: " ++ String.ofList text.quoted)
  | .notReference text =>
      some ("Invalid A1 reference: " ++ String.ofList text.quoted)
  | .rowTooLong => none

namespace Column

/-- The letters of a column that must not be negative. -/
def letters? : Int → Except AddressError Text
  | .ofNat column => .ok (letters column)
  | .negSucc n => .error (.negativeColumn (.negSucc n))

/-- The column that a text of one or more ASCII letters names. -/
def index? (name : Text) : Except AddressError Nat :=
  if name.isEmpty || !name.all Text.isLetter then .error (.notLetters name)
  else .ok (ofLetters name)

end Column

namespace Coord

/-- Row-major order. -/
def precedes (a b : Coord) : Bool :=
  a.row < b.row || (a.row == b.row && a.col < b.col)

/-- The name of the cell in a row and a column, however long it is. -/
def nameOf (row column : Nat) : Text :=
  Column.letters column ++ Text.ofNat (row + 1)

/-- The name of a coordinate that must not be negative.  The row is looked at
first, then the column, and then whether the row number can be written. -/
def name (c : Coord) : Except AddressError Text :=
  if c.row < 0 then .error (.negativeRow c.row)
  else do
    let letters ← Column.letters? c.col
    match Text.ofNat? (c.row.toNat + 1) with
    | some digits => pure (letters ++ digits)
    | none => throw .rowTooLong

/-- The part of a reference that names the cell: what follows the last `!`,
without white space around it and without `$`. -/
def core (t : Text) : Text :=
  let stripped := t.strip
  let named := match Text.afterLast '!' stripped with
    | some tail => Text.strip tail
    | none => stripped
  named.filter (· != '$')

/-- The coordinate that a reference names, if it names one. -/
def decode (t : Text) : Except AddressError (Option Coord) :=
  let letters := (core t).takeWhile Text.isLetter
  let digits := (core t).dropWhile Text.isLetter
  if letters.isEmpty || digits.isEmpty || !digits.all Text.isDigit then .ok none
  else if Text.digitLimit < digits.length then .error .rowTooLong
  else
    match Text.digitsValue digits with
    | 0 => .ok none
    | row + 1 => .ok (some ⟨(row : Int), (Column.ofLetters letters : Int)⟩)

/-- The coordinate that a reference names, which must name one. -/
def ofName (t : Text) : Except AddressError Coord := do
  match ← decode t with
  | some c => pure c
  | none => throw (.notReference t)

end Coord

end Spreadsheet
