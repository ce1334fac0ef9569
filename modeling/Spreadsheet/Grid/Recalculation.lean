import Spreadsheet.Function.Evaluation
import Spreadsheet.Grid.Guard

/-!
# Recalculating cells

A cell's text is empty, a formula behind an equals sign, or literal text.
References are resolved against a source of texts: a reference must name a cell
inside the source's extent, must not name a cell under evaluation, and otherwise
has the value of its cell.  A formula is evaluated in its turn, inside the formula
that refers to it and in the room that is left there.
-/

namespace Spreadsheet

/-- What the text of a cell is. -/
inductive Content where
  | empty
  | formula (text : Text)
  | literal (text : Text)
  deriving DecidableEq

namespace Content

/-- The character in front of a formula. -/
def formulaMarker : Char := '='

/-- What a text is in a cell. -/
def ofText : Text → Content
  | [] => .empty
  | c :: rest => if c = formulaMarker then .formula rest else .literal (c :: rest)

end Content

/-- The texts of cells, and how many rows and columns there are. -/
structure Source where
  rows : Nat
  columns : Nat
  text : Coord → Text

namespace Source

/-- Whether a coordinate lies inside the extent. -/
def holds (source : Source) (c : Coord) : Bool :=
  0 ≤ c.row && 0 ≤ c.col && c.row < source.rows && c.col < source.columns

/-- The value of a formula, evaluated in `room`, whose references `resolver`
answers. -/
def evaluateFormula (functions : Registry) (room : Nat)
    (resolver : Nat → Text → Guarded CellValue) (formula : Text) :
    Guarded CellValue := do
  let ending ← (functions.query room formula).run resolver
  match CellValue.ofOutcome ending with
  | .ok value => pure value
  | .error escape => throw escape

/-- The answer to a reference, where `evaluate` does the work for a formula
cell. -/
def answer (source : Source) (evaluate : Coord → Text → Guarded CellValue)
    (name : Text) : Guarded CellValue :=
  match Coord.decode name with
  | .error _ => throw .rowTooLong
  | .ok none => pure (.error .ref)
  | .ok (some c) =>
      if !source.holds c then pure (.error .ref)
      else do
        let guard ← get
        if guard.contains c then pure (.error .cycle)
        else
          match Content.ofText (source.text c) with
          | .empty => pure (.number (.zero false))
          | .formula text => evaluate c text
          | .literal text => pure (.ofLiteral text)

/-- The answer to a reference in `room`, through at most `links` formula cells
inside one another. -/
def follow (source : Source) (functions : Registry) :
    (links room : Nat) → Text → Guarded CellValue
  | 0, _ => source.answer fun _ _ => pure (.error .err)
  | links + 1, room => source.answer fun c text =>
      Guard.during c
        (evaluateFormula functions room (source.follow functions links) text)

/-- The answer to a reference in `room`.  A formula cell takes some room, so no
more of them than there is room for can be inside one another, and the bound on
links is never what ends an evaluation. -/
def resolve (source : Source) (functions : Registry) (room : Nat) (name : Text) :
    Guarded CellValue :=
  source.follow functions (room + 1) room name

/-- The value of a cell, by itself and with nothing else under evaluation. -/
def evaluateCell (source : Source) (functions : Registry) (room : Nat) (c : Coord) :
    Except Escape CellValue :=
  match Content.ofText (source.text c) with
  | .empty => .ok (.number (.zero false))
  | .literal text => .ok (.ofLiteral text)
  | .formula text =>
      let evaluation :=
        Guard.during c
          (evaluateFormula functions room (source.follow functions room) text)
      (evaluation.run Guard.empty).1

/-- What a cell shows: a literal text as it is, and the value of a formula. -/
def display (source : Source) (functions : Registry) (room : Nat) (c : Coord) :
    Except Escape Text :=
  match Content.ofText (source.text c) with
  | .formula _ => do
      let value ← source.evaluateCell functions room c
      pure value.display
  | _ => .ok (source.text c)

end Source

end Spreadsheet
