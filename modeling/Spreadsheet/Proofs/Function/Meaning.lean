import Spreadsheet.Proofs.Formula.Reading
import Spreadsheet.Proofs.Function.Evaluation
import Spreadsheet.Proofs.Query.Run

/-!
# The meaning of formulas

An expression is evaluated from left to right, whoever answers its references and
whatever its functions make of what a `Call` tells them.  Evaluating a text that
writes the expression comes to the same: the same questions in the same order, the
same operations on the answers, and the same first failure.  Only signs,
parentheses and references that are nested too deeply for the room make a
difference.
-/

namespace Spreadsheet

namespace Expression

/-- How much room the expression takes outside of its calls. -/
def depth : Expression → Nat
  | number _ => 0
  | reference _ _ => Nesting.reference + Nesting.lookup
  | signed _ operand => Nesting.sign + operand.depth
  | binary _ left right => max left.depth right.depth
  | group inner => Nesting.group + inner.depth
  | call _ _ => 0

variable {m : Type → Type} [Monad m]

/-- Evaluate the expression from left to right.  References are answered by
`resolver` and calls are made by `call`; both are told how deep inside the
expression they stand. -/
def run (resolver : Nat → Text → m CellValue)
    (call : Nat → Text → List Text → ExceptT Failure m Number) :
    Nat → Expression → ExceptT Failure m Number
  | _, number numeral => pure numeral.value
  | deep, reference column row => do
      let answer ← ExceptT.lift
        (resolver (deep + Nesting.reference + Nesting.lookup) (column.text ++ row.text))
      match answer with
      | .number value => pure value
      | .error code => throw (.error (.answered code))
  | deep, signed sign operand => do
      let value ← run resolver call (deep + Nesting.sign) operand
      match sign with
      | .plus => pure value
      | .minus => pure (-value)
  | deep, binary operator left right => do
      let first ← run resolver call deep left
      let second ← run resolver call deep right
      match operator with
      | .add => pure (first + second)
      | .sub => pure (first - second)
      | .mul => pure (first * second)
      | .div =>
          if second.isNegligible then throw (.error (.zeroDivisor second))
          else pure (first / second)
  | deep, group inner => run resolver call (deep + Nesting.group) inner
  | deep, .call function arguments =>
      call deep (Text.upper function.text) (Arguments.passed arguments)

end Expression

section Evaluation

variable {m : Type → Type} [Monad m] [LawfulMonad m]

/-- The formula of an expression that fits into its room is evaluated like the
expression. -/
theorem Expression.run_formula (resolver : Nat → Text → m CellValue)
    (call : Nat → Text → List Text → Query Number) (room : Nat) {expression : Expression}
    {deep : Nat} (fits : deep + expression.depth ≤ room) :
    ExceptT.mk ((expression.formula.evaluate call (room - deep)).run resolver) =
      expression.run (fun deep name => resolver (room - deep) name)
        (fun deep name arguments => ExceptT.mk ((call (room - deep) name arguments).run resolver))
        deep := by
  -- `deep` is the room that has been taken by what stands around the expression.
  induction expression generalizing deep with
  | number numeral => rfl
  | reference column row =>
      simp only [depth] at fits
      have shares : Nesting.reference ≤ room - deep ∧
          Nesting.lookup ≤ room - deep - Nesting.reference := by omega
      have asks : (reference column row).formula.evaluate call (room - deep) =
          .ask (room - (deep + Nesting.reference + Nesting.lookup)) (column.text ++ row.text)
            Query.number := by
        simp only [formula, Formula.evaluate, Query.within_of_le shares.1, Query.request]
        rw [Query.within_of_le shares.2, Nat.sub_sub, Nat.sub_sub]
        rfl
      rw [asks, run]
      apply ExceptT.ext
      rw [ExceptT.run_bind_lift]
      simp only [ExceptT.run_mk, Query.run]
      congr 1
      funext answer
      cases answer <;> rfl
  | signed sign operand inductionHypothesis =>
      simp only [depth, ← Nat.add_assoc] at fits
      have share : Nesting.sign ≤ room - deep := by omega
      simp only [formula, Formula.evaluate, Query.within_of_le share, Nat.sub_sub, run,
        map_eq_pure_bind, Query.run_bind]
      rw [inductionHypothesis fits]
      cases sign <;> rfl
  | binary operator left right leftHypothesis rightHypothesis =>
      simp only [depth] at fits
      simp only [formula, Formula.evaluate, run, Query.run_bind]
      rw [leftHypothesis (by omega)]
      congr 1
      funext first
      rw [rightHypothesis (by omega)]
      congr 1
      funext second
      cases operator with
      | div =>
          simp only [Operator.apply]
          split <;> rfl
      | _ => rfl
  | group inner inductionHypothesis =>
      simp only [depth, ← Nat.add_assoc] at fits
      have share : Nesting.group ≤ room - deep := by omega
      simp only [formula, Formula.evaluate, Query.within_of_le share, Nat.sub_sub, run]
      exact inductionHypothesis fits
  | call function arguments => rfl

/-- The formula of an expression that does not fit into its room has no value,
whatever is answered. -/
theorem Expression.outcome_formula_of_deep (answers : Text → CellValue)
    (call : Nat → Text → List Text → Query Number) {expression : Expression} {room : Nat}
    (deep : room < expression.depth) :
    ∃ failure, (expression.formula.evaluate call room).outcome answers = .error failure := by
  induction expression generalizing room with
  | number numeral => exact absurd deep (Nat.not_lt_zero room)
  | reference column row =>
      simp only [depth] at deep
      simp only [formula, Formula.evaluate, Query.within]
      split
      · refine ⟨.tooDeep, ?_⟩
        rw [Query.request, Query.within, if_neg (by omega)]
        rfl
      · exact ⟨.tooDeep, rfl⟩
  | signed sign operand inductionHypothesis =>
      simp only [depth] at deep
      simp only [formula, Formula.evaluate, Query.within]
      split
      · obtain ⟨failure, fails⟩ := inductionHypothesis
          (show room - Nesting.sign < operand.depth by omega)
        refine ⟨failure, ?_⟩
        rw [map_eq_pure_bind, Query.outcome_bind, fails]
        rfl
      · exact ⟨.tooDeep, rfl⟩
  | binary operator left right leftHypothesis rightHypothesis =>
      simp only [formula, Formula.evaluate, Query.outcome_bind]
      cases first : (left.formula.evaluate call room).outcome answers with
      | error failure => exact ⟨failure, rfl⟩
      | ok value =>
          have either : room < left.depth ∨ room < right.depth := by
            simp only [depth] at deep
            omega
          rcases either with leftDeep | rightDeep
          · obtain ⟨failure, fails⟩ := leftHypothesis leftDeep
            cases first.symm.trans fails
          · obtain ⟨failure, fails⟩ := rightHypothesis rightDeep
            exact ⟨failure, by rw [fails]; rfl⟩
  | group inner inductionHypothesis =>
      simp only [depth] at deep
      simp only [formula, Formula.evaluate, Query.within]
      split
      · exact inductionHypothesis (by omega)
      · exact ⟨.tooDeep, rfl⟩
  | call function arguments => exact absurd deep (Nat.not_lt_zero room)

/-- What a call does that stands so deep in a text evaluated in `room`. -/
def Registry.callIn (functions : Registry) (room : Nat) (resolver : Nat → Text → m CellValue)
    (deep : Nat) (name : Text) (arguments : List Text) : ExceptT Failure m Number :=
  ExceptT.mk
    ((functions.invoke (functions.evaluate room) (room - deep) name arguments).run resolver)

/-- A text that writes an expression is evaluated as the expression.  In any room
its conversation is that of the expression's formula.  In a room that the
expression fits into, and with anybody who answers, it has the result or the first
failure of evaluating the expression from left to right, and asks for the same
names in the same order; each call is made of the function of its name in capitals
with its arguments stripped.  In less room it has no value. -/
theorem Registry.expression_of_writes (functions : Registry) {expression : Expression}
    {text : Text} (writes : expression.Writes text) :
    (∀ room, functions.expression room text =
      expression.formula.evaluate (functions.invoke (functions.evaluate room)) room) ∧
    (∀ room, expression.depth ≤ room → ∀ resolver : Nat → Text → m CellValue,
      (functions.expression room text).run resolver =
        (expression.run (fun deep name => resolver (room - deep) name)
          (functions.callIn room resolver) 0).run) ∧
    ∀ room, room < expression.depth → ∀ answers,
      ∃ failure, (functions.expression room text).outcome answers = .error failure := by
  have whole (room : Nat) : functions.expression room text =
      expression.formula.evaluate (functions.invoke (functions.evaluate room)) room := by
    rw [Registry.expression, evaluate_succ, Formula.ofText_of_writes writes]
  constructor
  · exact whole
  constructor
  · intro room fits resolver
    rw [← Nat.zero_add expression.depth] at fits
    have same := Expression.run_formula resolver (functions.invoke (functions.evaluate room))
      room fits
    rw [whole]
    exact congrArg ExceptT.run same
  · intro room deep answers
    rw [whole]
    exact Expression.outcome_formula_of_deep answers _ deep

end Evaluation

/-- A numeral of one digit. -/
def Numeral.ofDigit (d : Char) (isDigit : Text.isDigit d = true) : Numeral where
  whole := [d]
  fraction := none
  exponent := none
  wholeDigits := by rw [List.all_cons, isDigit]; rfl
  fractionDigits := rfl
  nonempty := List.cons_ne_nil _ _

namespace Expression

/-- The product of a negated cell and two. -/
def negatedDouble : Expression :=
  .binary .mul (.signed .minus (.reference ⟨['A'], by decide, by decide⟩
    ⟨['1'], by decide, by decide⟩)) (.number (.ofDigit '2' (by decide)))

theorem negatedDouble_writes : negatedDouble.Writes "- A1 *2".toList := by
  have negated : Renders 2 (.signed .minus (.reference ⟨['A'], by decide, by decide⟩
      ⟨['1'], by decide, by decide⟩)) "- A1".toList :=
    .weaken (@Renders.signed .minus [' '] ['A', '1'] _ (by decide) (.reference _ _))
  have product : Renders 2 negatedDouble "- A1 *2".toList :=
    @Renders.binary .mul _ [' '] [] _ _ _ negated (by decide) rfl (.number _)
  exact ⟨[], _, [], rfl, rfl, .weaken product, by decide⟩

end Expression

/-- A text with gaps in it is evaluated as the expression, and has no value where
there is no room for it. -/
theorem Registry.expression_of_writes_negatedDouble :
    Expression.negatedDouble.Writes "- A1 *2".toList ∧
    ((builtins.expression 986 "- A1 *2".toList).run (m := Id)
        fun _ _ => .number (.ofNat 3)) =
      (Expression.negatedDouble.run (fun _ _ => .number (.ofNat 3))
        (builtins.callIn 986 fun _ _ => (.number (.ofNat 3) : Id CellValue)) 0).run ∧
    ∃ failure, (builtins.expression 3 "- A1 *2".toList).outcome
      (fun _ => .number (.ofNat 3)) = .error failure := by
  obtain ⟨-, meaning, deep⟩ :=
    expression_of_writes (m := Id) builtins Expression.negatedDouble_writes
  constructor
  · exact Expression.negatedDouble_writes
  constructor
  · exact meaning 986 (by decide) fun _ _ => .number (.ofNat 3)
  · exact deep 3 (by decide) fun _ => .number (.ofNat 3)

/-! ## Parentheses in parentheses -/

namespace Expression

/-- The expression in so many pairs of parentheses. -/
def parenthesized : Nat → Expression → Expression
  | 0, expression => expression
  | count + 1, expression => .group (parenthesized count expression)

/-- A text in so many pairs of parentheses. -/
def parenthesizedText : Nat → Text → Text
  | 0, text => text
  | count + 1, text => '(' :: (parenthesizedText count text ++ [')'])

theorem renders_parenthesized {expression : Expression} {text : Text}
    (renders : Renders operandStrength expression text) (count : Nat) :
    Renders operandStrength (parenthesized count expression) (parenthesizedText count text) := by
  induction count with
  | zero => exact renders
  | succ count inductionHypothesis =>
      have inner : Renders Operator.add.strength (parenthesized count expression)
          (parenthesizedText count text) := .weaken (.weaken inductionHypothesis)
      have none : ([] : Text).all Text.isGap = true := rfl
      exact .group none none inner

/-- Parentheses do not change a number. -/
theorem run_parenthesized {m : Type → Type} [Monad m] (resolver : Nat → Text → m CellValue)
    (call : Nat → Text → List Text → ExceptT Failure m Number) (numeral : Numeral)
    (count deep : Nat) :
    (parenthesized count (.number numeral)).run resolver call deep = pure numeral.value := by
  induction count generalizing deep with
  | zero => rfl
  | succ count inductionHypothesis => exact inductionHypothesis _

/-- Parentheses that take more room than there is are nested too deeply. -/
theorem evaluate_parenthesized (call : Nat → Text → List Text → Query Number)
    (expression : Expression) {count room : Nat} (deep : room < Nesting.group * count) :
    (parenthesized count expression).formula.evaluate call room = .fail .tooDeep := by
  induction count generalizing room with
  | zero => exact absurd deep (Nat.not_lt_zero room)
  | succ count inductionHypothesis =>
      simp only [parenthesized, formula, Formula.evaluate, Query.within]
      split
      · apply inductionHypothesis
        rw [Nat.mul_succ] at deep
        omega
      · rfl

end Expression

/-- In a thousand pairs of parentheses a number is nested too deeply to be
evaluated, and a blank between the parentheses of a call is no argument. -/
theorem Registry.query_parenthesized :
    ((Expression.parenthesized 1000 (.number (.ofDigit '1' (by decide)))).Writes
        (Expression.parenthesizedText 1000 ['1']) ∧
      ((Expression.parenthesized 1000 (.number (.ofDigit '1' (by decide)))).run (m := Id)
        (fun _ _ => .error .ref) (fun _ _ _ => throw .tooDeep) 0).run =
          .ok (Number.ofNat 1) ∧
      (builtins.query Nesting.allowance (Expression.parenthesizedText 1000 ['1'])).outcome
        (fun _ => .error .ref) = .error .tooDeep) ∧
    (builtins.query Nesting.allowance "SUM( )".toList).outcome (fun _ => .error .ref) =
        .ok (Number.ofNat 0) ∧
      (builtins.invoke builtins.expression Nesting.allowance "SUM".toList
        ([[' ']].map Text.strip)).outcome (fun _ => .error .ref) =
          .error (.error .blankArgument) := by
  have one : Expression.Renders Expression.operandStrength
      (.number (.ofDigit '1' (by decide))) ['1'] := .number (.ofDigit '1' (by decide))
  have writes := Expression.writes_of_renders (Expression.renders_parenthesized one 1000)
  constructor
  · constructor
    · exact writes
    constructor
    · have value : (Numeral.ofDigit '1' (by decide)).value = Number.ofNat 1 := by
        decide +kernel
      rw [Expression.run_parenthesized, value]
      rfl
    · rw [query, Query.within_of_le (by decide), expression, evaluate_succ,
        Formula.ofText_of_writes writes, Expression.evaluate_parenthesized _ _ (by decide)]
      rfl
  · constructor
    · decide +kernel
    · decide +kernel

end Spreadsheet
