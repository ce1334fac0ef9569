import Spreadsheet.Query
import Spreadsheet.Address.Range

/-!
# What a function is given

A function is given the raw texts of its arguments and the means to evaluate
them, and decides itself which to evaluate and when.  An argument contributes
items: a range contributes its cells, row by row, and any other text the one
value of the expression it is.  Each item is asked for only when the one before
has been dealt with.  What a function evaluates lies inside its call, in the room
that the call is given.

That is all a function sees.  It neither reads nor moves the place in the text at
which its caller stands, and it does not enter or leave cells itself.  What is said
of every registry is said of functions that keep to this.
-/

namespace Spreadsheet

/-- What a function is told: the arguments of its call, the room that is left inside
it, and the value of a text as an expression in given room.  The text in which the
call stands, and its place there, are not part of it. -/
structure Call where
  arguments : List Text
  room : Nat
  expression : (room : Nat) → Text → Query Number

/-- What a function does with what it is told.  It may ask for cells, evaluate any
texts in any order, take failures for values, fail and break down. -/
abbrev FunctionBody := Call → Query Number

namespace Range

variable {β : Type}

/-- Ask for the cells of a row from a column on, handing each answer on before
the next is asked for. -/
def foldRow (room : Nat) (step : β → CellValue → Query β) (row : Nat) :
    Nat → Nat → β → Query β
  | _, 0, state => .done state
  | column, count + 1, state => do
      let answer ← Query.request room (Coord.nameOf row column)
      let next ← step state answer
      foldRow room step row (column + 1) count next

/-- Ask for the cells of the rows from a row on. -/
def foldRows (range : Range) (room : Nat) (step : β → CellValue → Query β) :
    Nat → Nat → β → Query β
  | _, 0, state => .done state
  | row, count + 1, state => do
      let next ← foldRow room step row range.left range.width state
      range.foldRows room step (row + 1) count next

/-- Ask for all cells of a range, row by row, each in the same room. -/
def foldCells (range : Range) (room : Nat) (step : β → CellValue → Query β)
    (state : β) : Query β :=
  range.foldRows room step range.top range.height state

end Range

namespace Call

variable {β : Type}

/-- Open something inside a call with a share of its room. -/
def within (call : Call) (share : Nat) (inner : Call → Query β) : Query β :=
  Query.within share call.room fun rest => inner { call with room := rest }

/-- The value of an argument as an expression. -/
def evaluate (call : Call) (argument : Text) : Query Number :=
  call.within Nesting.argument fun inner => inner.expression inner.room argument

/-- The range that an argument writes, if it writes one. -/
def range? (argument : Text) : Query (Option Range) :=
  match Range.ofText? argument with
  | .ok range => .done range
  | .error _ => .fail (.escape .rowTooLong)

/-- Go through the items of an argument.  A failing expression is an item like
any other; a blank argument is a failure. -/
def foldItems (call : Call) (step : β → CellValue → Query β) (state : β)
    (argument : Text) : Query β :=
  call.within Nesting.items fun inner =>
    if argument.isEmpty then .error .blankArgument
    else do
      match ← range? argument with
      | some range => range.foldCells inner.room step state
      | none => do
          let item ← (inner.evaluate argument).caught
          step state item

/-- Go through the numbers of an argument; the first item that is an error code
is a failure. -/
def foldNumbers (call : Call) (step : β → Number → β) (state : β)
    (argument : Text) : Query β :=
  call.within Nesting.numbers fun inner =>
    inner.foldItems (fun state item => step state <$> Query.number item) state argument

/-- Go through the numbers of all arguments. -/
def foldAll (call : Call) (step : β → Number → β) (state : β) : Query β :=
  call.arguments.foldlM (call.foldNumbers step) state

end Call

end Spreadsheet
