import Spreadsheet.Formula.Evaluation
import Spreadsheet.Formula.Reader
import Spreadsheet.Function.Registry

/-!
# Evaluating the text of a formula

The text is read, and its formula evaluated with the functions of a registry.
A function evaluates its arguments in the same way, as formulas of their own, in
the room that its call leaves them.
-/

namespace Spreadsheet.Registry

/-- The value of a text as a formula, evaluated in `room` and with fewer than
`calls` calls inside one another. -/
def evaluate (functions : Registry) : (calls room : Nat) → Text → Query Number
  | 0, _, _ => .fail .tooDeep
  | calls + 1, room, text =>
      (Formula.ofText text).evaluate (fun room name arguments =>
        match functions.find? name with
        | none => .error (.unknownFunction name)
        | some body =>
            Query.within Nesting.call room fun rest =>
              body {
                arguments := arguments
                room := rest
                expression := functions.evaluate calls })
        room

/-- The value of a text as an expression, evaluated in `room`.  A call takes some
room, so no more calls than there is room for can be inside one another, and the
bound on calls is never what ends an evaluation. -/
def expression (functions : Registry) (room : Nat) (text : Text) : Query Number :=
  functions.evaluate (room + 1) room text

/-- The value of a text as a formula of its own, evaluated in `room`. -/
def query (functions : Registry) (room : Nat) (text : Text) : Query Number :=
  Query.within Nesting.formula room fun rest => functions.expression rest text

/-- A call without arguments, for going through items outside of any formula. -/
def bareCall (functions : Registry) (room : Nat) : Call where
  arguments := []
  room := room
  expression := functions.expression

/-- The items of an argument, in order. -/
def items (functions : Registry) (room : Nat) (argument : Text) :
    Query (List CellValue) :=
  List.reverse <$>
    (functions.bareCall room).foldItems (fun items item => pure (item :: items)) [] argument

end Spreadsheet.Registry
