import Spreadsheet.Proofs.Formula.Balance
import Spreadsheet.Proofs.Formula.Splitting
import Spreadsheet.Proofs.Function.Accepted
import Spreadsheet.Proofs.Query.Run

/-!
# Calls in a text

A call is written as the name of its function and its arguments in parentheses, with commas
between them.  Its text is evaluated by the function, which is given the arguments stripped.
Such a text can be an argument itself, and is passed on as it is.
-/

namespace Spreadsheet

/-- The text of a call. -/
def Letters.called (function : Letters) (arguments : List Text) : Text :=
  function.text ++ '(' :: (Arguments.text arguments ++ [')'])

/-- The name of a built-in function. -/
def Builtin.word (builtin : Builtin) : Letters where
  text := builtin.name
  nonempty := by cases builtin <;> decide
  all := by cases builtin <;> decide

theorem Builtin.upper_word (builtin : Builtin) :
    Text.upper builtin.word.text = builtin.name := by
  cases builtin <;> decide

/-- The registry has the built-in function, and no other one under its name. -/
def Registry.Keeps (functions : Registry) (builtin : Builtin) : Prop :=
  functions.find? builtin.name = some builtin.body

theorem Registry.builtins_keeps (builtin : Builtin) : builtins.Keeps builtin := by
  rw [Keeps, find?, builtins, List.lookup_nil, Builtin.ofName?_name]
  rfl

/-! ## Calls as arguments -/

theorem Text.strip_of_isGap {gap : Text} (blank : gap.all isGap = true) : gap.strip = [] := by
  have white : gap.all isBlank = true :=
    List.all_eq_true.mpr fun c member => isBlank_of_isGap (List.all_eq_true.mp blank c member)
  have stripped := strip_surrounded white (List.all_nil) []
  rwa [List.append_nil, List.append_nil] at stripped

/-- Arguments among which there is one that is not blank are passed on with each of them
stripped. -/
theorem Arguments.passed_of_mem {arguments : List Text} {argument : Text}
    (member : argument ∈ arguments) (solid : argument.strip ≠ []) :
    passed arguments = arguments.map Text.strip := by
  refine passed_eq_map fun lone same => Bool.eq_false_iff.mpr fun blank => ?_
  rw [same, List.mem_singleton] at member
  rw [member] at solid
  exact solid (Text.strip_of_isGap blank)

namespace Letters

variable {arguments : List Text}

theorem balanced_called (function : Letters)
    (balanced : ∀ argument ∈ arguments, Balanced false argument) :
    Balanced false (function.called arguments) := by
  have name : Balanced false function.text :=
    Text.balanced_of_all_isPlain (Text.all_isPlain function.all fun _ => Text.isPlain_of_isLetter)
  exact name.append (.parentheses (Arguments.balanced_text balanced) (.nil false))

theorem strip_called (function : Letters) (arguments : List Text) :
    (function.called arguments).strip = function.called arguments := by
  apply Text.Trimmed.strip_eq
  constructor
  · intro c first
    cases written : function.text with
    | nil => exact absurd written function.nonempty
    | cons d rest =>
        rw [called, written, List.cons_append, List.head?_cons, Option.mem_some_iff] at first
        have letters := function.all
        rw [written, List.all_cons, Bool.and_eq_true] at letters
        exact Text.isBlank_eq_false (.inl (first ▸ letters.1))
  · intro c last
    rw [called, ← List.cons_append, ← List.append_assoc, List.getLast?_concat,
      Option.mem_some_iff] at last
    exact last ▸ by decide

theorem called_ne_nil (function : Letters) (arguments : List Text) :
    function.called arguments ≠ [] :=
  List.append_ne_nil_of_right_ne_nil _ (List.cons_ne_nil _ _)

end Letters

/-! ## Reading calls -/

theorem Letters.renders_called (function : Letters) {arguments : List Text}
    (balanced : ∀ argument ∈ arguments, Balanced false argument) :
    (Expression.call function arguments).Renders Expression.operandStrength
      (function.called arguments) :=
  @Expression.Renders.call function [] arguments rfl balanced

theorem Formula.ofText_called (function : Letters) {arguments : List Text}
    (balanced : ∀ argument ∈ arguments, Balanced false argument) :
    ofText (function.called arguments) =
      .call (Text.upper function.text) (Arguments.passed arguments) :=
  ofText_of_writes (Expression.writes_of_renders (function.renders_called balanced))

/-- Two operands with an operation between them are read as the operation. -/
theorem Formula.ofText_binary (operator : Operator) {left right : Expression}
    {leftText rightText : Text} (first : left.Renders Expression.operandStrength leftText)
    (second : right.Renders Expression.operandStrength rightText) :
    ofText (leftText ++ operator.char :: rightText) =
      .binary operator left.formula right.formula := by
  have renders := @Expression.Renders.binary operator leftText [] [] rightText left right
    (first.mono (by cases operator <;> decide)) rfl rfl
    (second.mono (by cases operator <;> decide))
  have weakest : Operator.add.strength ≤ operator.strength := by cases operator <;> decide
  have writes : (Expression.binary operator left right).Writes
      (leftText ++ operator.char :: rightText) :=
    ⟨[], _, [], rfl, rfl, renders.mono weakest, (List.append_nil _).symm⟩
  exact ofText_of_writes writes

/-! ## Evaluating calls -/

namespace Registry

variable {functions : Registry} {function : Letters} {arguments : List Text} {room : Nat}
  {body : FunctionBody}

theorem Keeps.find? {builtin : Builtin} (keeps : functions.Keeps builtin) :
    functions.find? (Text.upper builtin.word.text) = some builtin.body :=
  builtin.upper_word.symm ▸ keeps

/-- A call is evaluated by its function, in the room that is left inside it. -/
theorem invoke_of_found {name : Text} (found : functions.find? name = some body)
    (expression : Nat → Text → Query Number) (room : Nat) (arguments : List Text) :
    functions.invoke expression room name arguments =
      Query.within Nesting.call room fun left => body ⟨arguments, left, expression⟩ := by
  rw [invoke, found]

/-- The text of a call is evaluated by its function, -/
theorem evaluate_called (found : functions.find? (Text.upper function.text) = some body)
    (balanced : ∀ argument ∈ arguments, Balanced false argument) (calls room : Nat) :
    functions.evaluate (calls + 1) room (function.called arguments) =
      Query.within Nesting.call room fun left =>
        body ⟨Arguments.passed arguments, left, functions.evaluate calls⟩ := by
  rw [evaluate_succ, Formula.ofText_called function balanced, Formula.evaluate,
    invoke_of_found found]

/-- also as an argument of another call, -/
theorem evaluate_called_argument (found : functions.find? (Text.upper function.text) = some body)
    (balanced : ∀ argument ∈ arguments, Balanced false argument) (outer : List Text)
    (calls left : Nat) :
    Call.evaluate ⟨outer, left, functions.evaluate (calls + 1)⟩ (function.called arguments) =
      Query.within (Nesting.argument + Nesting.call) left fun inner =>
        body ⟨Arguments.passed arguments, inner, functions.evaluate calls⟩ := by
  rw [← Query.within_within, Call.evaluate, Call.within]
  exact Query.within_congr fun _ => evaluate_called found balanced calls _

/-- and as a formula of its own. -/
theorem query_eq_within (found : functions.find? (Text.upper function.text) = some body)
    (balanced : ∀ argument ∈ arguments, Balanced false argument) (room : Nat) :
    functions.query room (function.called arguments) =
      Query.within Nesting.formula room fun rest => Query.within Nesting.call rest fun left =>
        body ⟨Arguments.passed arguments, left, functions.evaluate rest⟩ := by
  rw [query]
  exact Query.within_congr fun _ => evaluate_called found balanced _ _

theorem query_called (found : functions.find? (Text.upper function.text) = some body)
    (balanced : ∀ argument ∈ arguments, Balanced false argument)
    (enough : Nesting.formula + Nesting.call ≤ room) :
    functions.query room (function.called arguments) =
      body ⟨Arguments.passed arguments, room - Nesting.formula - Nesting.call,
        functions.evaluate (room - Nesting.formula)⟩ := by
  rw [query_eq_within found balanced, Query.within_of_le (by omega)]
  exact Query.within_of_le (by omega) _

/-- The value of an argument of a call that is a formula of its own. -/
def argumentValue (functions : Registry) (room : Nat) (argument : Text) : Query Number :=
  Query.within Nesting.formula room fun rest => Query.within Nesting.call rest fun left =>
    Call.evaluate ⟨[], left, functions.evaluate rest⟩ argument.strip

/-- A call whose function begins with the value of its argument, -/
theorem query_bind_argumentValue {argument : Text} {next : Number → Query Number}
    (found : functions.find? (Text.upper function.text) = some body)
    (balanced : ∀ text ∈ arguments, Balanced false text)
    (works : ∀ rest left, Nesting.call ≤ rest →
      body ⟨Arguments.passed arguments, left, functions.evaluate rest⟩ =
        Call.evaluate ⟨[], left, functions.evaluate rest⟩ argument.strip >>= next) :
    functions.query room (function.called arguments) =
      functions.argumentValue room argument >>= next := by
  rw [query_eq_within found balanced, argumentValue, Query.within_bind]
  refine Query.within_congr fun _ => ?_
  rw [Query.within_bind]
  exact Query.within_congr fun fits => works _ _ fits

/-- and one whose function works on it and does nothing else. -/
theorem query_map_argumentValue {argument : Text} {change : Number → Number}
    (found : functions.find? (Text.upper function.text) = some body)
    (balanced : ∀ text ∈ arguments, Balanced false text)
    (works : ∀ rest left, Nesting.call ≤ rest →
      body ⟨Arguments.passed arguments, left, functions.evaluate rest⟩ =
        change <$> Call.evaluate ⟨[], left, functions.evaluate rest⟩ argument.strip) :
    functions.query room (function.called arguments) =
      change <$> functions.argumentValue room argument := by
  rw [map_eq_pure_bind]
  refine query_bind_argumentValue found balanced fun rest left fits => ?_
  rw [works rest left fits, map_eq_pure_bind]

theorem passed_single {argument : Text} (solid : argument.strip ≠ []) :
    Arguments.passed [argument] = [argument.strip] :=
  Arguments.passed_of_mem List.mem_cons_self solid

end Registry

end Spreadsheet
