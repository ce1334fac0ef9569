import Spreadsheet.Function.Evaluation
import Spreadsheet.Proofs.Formula.Part
import Spreadsheet.Proofs.Function.Alike

/-!
# Evaluating formulas alike

A formula evaluated with like calls in like rooms holds like conversations, if
its references may be asked for and the rooms leave as much as its width takes.
For a registry whose functions respect a likeness this holds of texts.
-/

namespace Spreadsheet

variable {likeness : Likeness} {rooms : Rooms likeness} {texts : Texts likeness rooms}

/-- As much room as one character of a formula takes, at most. -/
def Nesting.perCharacter : Nat := 7

theorem Operator.apply_alike (operator : Operator) (left right : Number) :
    Query.Alike likeness (operator.apply left right) (operator.apply left right) := by
  cases operator with
  | div =>
      simp only [apply]
      split
      · exact Query.Alike.error _
      · exact Query.Alike.done _
  | _ => exact Query.Alike.done _

/-- A formula with like calls is evaluated alike. -/
theorem Formula.evaluate_alike (rooms : Rooms likeness)
    {call call' : Nat → Text → List Text → Query Number} {formula : Formula}
    (parts : formula.All
      (fun name => ∀ room room', rooms.leave 0 room room' →
        likeness.asks room name room' name)
      (fun function arguments => ∀ room room',
        rooms.leave (Nesting.perCharacter * (arguments.flatten.length + 2)) room room' →
          Query.Alike likeness (call room function arguments)
            (call' room' function arguments)))
    {room room' : Nat}
    (enough : rooms.leave (Nesting.perCharacter * formula.width) room room') :
    Query.Alike likeness (formula.evaluate call room) (formula.evaluate call' room') := by
  induction formula generalizing room room' with
  | number value => exact Query.Alike.done value
  | reference name =>
      have taken : rooms.leave (Nesting.reference + Nesting.lookup) room room' :=
        rooms.mono (show _ ≤ Nesting.perCharacter * 1 by decide) enough
      exact Query.Alike.within taken fun left =>
        (Query.Alike.request left parts).bind fun answer => Query.Alike.number answer
  | signed sign operand inductionHypothesis =>
      have taken : rooms.leave (Nesting.sign + Nesting.perCharacter * operand.width)
          room room' := by
        apply rooms.mono _ enough
        simp only [Formula.width, Nesting.sign, Nesting.perCharacter]
        omega
      exact Query.Alike.within taken fun left => (inductionHypothesis parts left).map _
  | binary operator left right leftHypothesis rightHypothesis =>
      have first : rooms.leave (Nesting.perCharacter * left.width) room room' :=
        rooms.mono (Nat.mul_le_mul_left _ (Nat.le_add_right _ _)) enough
      have second : rooms.leave (Nesting.perCharacter * right.width) room room' :=
        rooms.mono (Nat.mul_le_mul_left _ (Nat.le_add_left _ _)) enough
      exact (leftHypothesis parts.1 first).bind fun value =>
        (rightHypothesis parts.2 second).bind fun divisor => operator.apply_alike value divisor
  | group inner inductionHypothesis =>
      have taken : rooms.leave (Nesting.group + Nesting.perCharacter * inner.width)
          room room' := by
        apply rooms.mono _ enough
        simp only [Formula.width, Nesting.group, Nesting.perCharacter]
        omega
      exact Query.Alike.within taken fun left => inductionHypothesis parts left
  | call function arguments => exact parts room room' enough
  | broken cause => exact Query.Alike.error cause
  | halted start cause inductionHypothesis =>
      exact (inductionHypothesis parts enough).bind fun _ => Query.Alike.error cause

namespace Registry

/-- What a call does, where `expression` evaluates texts. -/
def invoke (functions : Registry) (expression : Nat → Text → Query Number) (room : Nat)
    (name : Text) (arguments : List Text) : Query Number :=
  match functions.find? name with
  | none => .error (.unknownFunction name)
  | some body =>
      Query.within Nesting.call room fun rest => body ⟨arguments, rest, expression⟩

theorem evaluate_succ (functions : Registry) (calls room : Nat) (text : Text) :
    functions.evaluate (calls + 1) room text =
      (Formula.ofText text).evaluate (functions.invoke (functions.evaluate calls)) room :=
  rfl

/-- Every function of the registry holds like conversations in like calls. -/
def Respects (texts : Texts likeness rooms) (functions : Registry) : Prop :=
  ∀ name body, functions.find? name = some body → FunctionBody.Respects texts body

theorem builtins_respects : builtins.Respects texts := by
  intro name body found
  simp only [find?, builtins, List.lookup_nil] at found
  obtain ⟨builtin, -, rfl⟩ := Option.map_eq_some_iff.mp found
  exact builtin.body_respects

theorem invoke_alike {functions : Registry} (respects : functions.Respects texts)
    {expression expression' : Nat → Text → Query Number} {spare : Nat}
    (alike : ∀ {room room' text text'}, texts.related text text' →
      rooms.leave spare room room' →
        Query.Alike likeness (expression room text) (expression' room' text'))
    {arguments arguments' : List Text}
    (related : List.Forall₂ texts.related arguments arguments') {room room' : Nat}
    (enough : rooms.leave (Nesting.call + (Nesting.body + spare)) room room')
    (name : Text) :
    Query.Alike likeness (functions.invoke expression room name arguments)
      (functions.invoke expression' room' name arguments') := by
  simp only [invoke]
  cases found : functions.find? name with
  | none => exact Query.Alike.error _
  | some body =>
      exact Query.Alike.within enough fun left =>
        respects name body found ⟨related, alike⟩ left

/-- A text is evaluated alike in rooms that leave anything or nothing, if what is
part of the text may be asked for, and shorter parts are evaluated alike. -/
theorem ofText_alike {functions : Registry} (respects : functions.Respects texts)
    (anything : ∀ {spare room room'}, rooms.leave 0 room room' → rooms.leave spare room room')
    {text : Text}
    (asks : ∀ name, name.Sublist text → ∀ room room', rooms.leave 0 room room' →
      likeness.asks room name room' name)
    (given : ∀ argument, argument.Sublist text → argument.length < text.length →
      texts.related argument argument)
    {expression expression' : Nat → Text → Query Number}
    (alike : ∀ {room room' text text'}, texts.related text text' →
      rooms.leave 0 room room' →
        Query.Alike likeness (expression room text) (expression' room' text'))
    {room room' : Nat} (left : rooms.leave 0 room room') :
    Query.Alike likeness
      ((Formula.ofText text).evaluate (functions.invoke expression) room)
      ((Formula.ofText text).evaluate (functions.invoke expression') room') := by
  apply Formula.evaluate_alike rooms _ (anything left)
  apply (Formula.partOf_ofText text).mono
  · exact asks
  · intro function arguments part room room' left
    have related : List.Forall₂ texts.related arguments arguments := by
      apply List.forall₂_same.mpr
      intro argument member
      have inside := part argument member
      have shorter := inside.length_le
      simp only [List.length_cons, List.length_append] at shorter
      apply given
      · exact ((List.sublist_append_left argument [')']).cons '(').trans inside
      · omega
    have enough := rooms.mono (Nat.zero_le _) left
    exact invoke_alike respects alike related (anything enough) function

end Registry

end Spreadsheet
