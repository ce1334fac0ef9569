import Spreadsheet.Function.Aggregate
import Spreadsheet.Function.Logic
import Spreadsheet.Function.Rounding

/-!
# The functions that a formula can call

Ten functions are built in.  A registry adds host functions to them; a name
stands for the function registered last under it, in whatever case, and for the
built-in one if none has been.
-/

namespace Spreadsheet

/-- The functions that are built in. -/
inductive Builtin where
  | sum
  | round
  | average
  | min
  | max
  | count
  | ifThen
  | and
  | or
  | not
  deriving DecidableEq

namespace Builtin

/-- All of them, category by category. -/
def all : List Builtin := [sum, round, average, min, max, count, ifThen, and, or, not]

/-- The name in a formula, in capitals. -/
def name : Builtin → Text
  | sum => "SUM".toList
  | round => "ROUND".toList
  | average => "AVERAGE".toList
  | min => "MIN".toList
  | max => "MAX".toList
  | count => "COUNT".toList
  | ifThen => "IF".toList
  | and => "AND".toList
  | or => "OR".toList
  | not => "NOT".toList

/-- The part of the catalogue that lists the function. -/
def category : Builtin → String
  | sum => "math"
  | round => "math"
  | average => "statistical"
  | min => "statistical"
  | max => "statistical"
  | count => "statistical"
  | ifThen => "logic"
  | and => "logic"
  | or => "logic"
  | not => "logic"

/-- What the function does. -/
def body : Builtin → FunctionBody
  | sum => Function.sum
  | round => Function.round
  | average => Function.average
  | min => Function.min
  | max => Function.max
  | count => Function.count
  | ifThen => Function.ifThen
  | and => Function.and
  | or => Function.or
  | not => Function.not

/-- The built-in function of a name, in any case. -/
def ofName? (text : Text) : Option Builtin :=
  all.find? fun builtin => builtin.name == text.upper

/-- Whether a name, in any case, is that of a built-in function. -/
def isSupported (text : Text) : Bool :=
  (ofName? text).isSome

/-- Every built-in function is found under its own name. -/
theorem ofName?_name (builtin : Builtin) : ofName? builtin.name = some builtin := by
  cases builtin <;> decide

end Builtin

/-- The host functions that have been registered, the last one first.  Each is a
`FunctionBody`, and so sees the arguments of its call but not who evaluates it. -/
structure Registry where
  registered : List (Text × FunctionBody)

namespace Registry

/-- No host functions. -/
def builtins : Registry := ⟨[]⟩

instance : Inhabited Registry := ⟨builtins⟩

/-- The function of a name, in any case. -/
def find? (functions : Registry) (name : Text) : Option FunctionBody :=
  match functions.registered.lookup name.upper with
  | some body => some body
  | none => (Builtin.ofName? name).map Builtin.body

/-- Whether a name, in any case, has a function. -/
def has (functions : Registry) (name : Text) : Bool :=
  (functions.registered.lookup name.upper).isSome || Builtin.isSupported name

/-- Whether a host function can be registered under the name: one or more ASCII
letters. -/
def isName (name : Text) : Bool :=
  !name.isEmpty && name.all Text.isLetter

/-- The wording for a name that is refused. -/
def refusal (name : Text) : String :=
  "Function names must be letters only: " ++ String.ofList name.quoted

/-- The registry with one more function, unless its name is refused. -/
def register? (functions : Registry) (name : Text) (body : FunctionBody) :
    Option Registry :=
  if isName name then some ⟨(name.upper, body) :: functions.registered⟩ else none

/-- The order of texts by their characters. -/
def textPrecedes : Text → Text → Bool
  | [], [] => true
  | [], _ :: _ => true
  | _ :: _, [] => false
  | c :: rest, d :: others =>
      c < d || (c == d && textPrecedes rest others)

/-- The names of all functions in alphabetical order, each once. -/
def names (functions : Registry) : List Text :=
  let all := Builtin.all.map Builtin.name ++ functions.registered.map Prod.fst
  all.eraseDups.mergeSort textPrecedes

end Registry

end Spreadsheet
