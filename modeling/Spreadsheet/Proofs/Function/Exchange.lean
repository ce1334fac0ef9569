import Spreadsheet.Proofs.Formula.Reading
import Spreadsheet.Proofs.Function.Strict
import Spreadsheet.Proofs.Query.Transcript

/-!
# Answers to strict formulas

No transcript of a strict formula loses an answer.  Where there is a value, each
name of the formula has been asked for in its turn and answered with a number; an
error code is the last answer, and it is the value.
-/

namespace Spreadsheet

namespace Query

variable {α : Type} {query : Query α} {names : List Text} {exchange : Exchange}
  {ending : Except Failure α}

/-! ## Transcripts of strict conversations -/

/-- What is asked is the beginning of the names. -/
theorem Strict.isPrefix (strict : query.Strict names)
    (transcript : query.Transcript exchange ending) : exchange.map Prod.fst <+: names := by
  induction transcript generalizing names with
  | done result => exact List.nil_prefix
  | fail failure => exact List.nil_prefix
  | @ask room name next answer exchange ending rest inductionHypothesis =>
      cases strict with
      | @ask _ _ _ names passes strictRest =>
          rw [List.map_cons, List.prefix_cons_inj]
          cases answer with
          | number value => exact inductionHypothesis (strictRest value)
          | error code =>
              obtain ⟨cause, failed, -⟩ := passes code
              rw [failed] at rest
              cases rest
              exact List.nil_prefix

/-- With a result, all names have been asked for, and all answers are numbers. -/
theorem Strict.complete (strict : query.Strict names)
    (transcript : query.Transcript exchange ending) {result : α} (ends : ending = .ok result) :
    exchange.map Prod.fst = names ∧ exchange.Successful := by
  induction transcript generalizing names with
  | done result =>
      cases strict
      exact ⟨rfl, List.forall_mem_nil _⟩
  | fail failure => cases ends
  | @ask room asked next answer exchange ending rest inductionHypothesis =>
      cases strict with
      | @ask _ _ _ names passes strictRest =>
          cases answer with
          | number value =>
              obtain ⟨same, successful⟩ := inductionHypothesis (strictRest value) ends
              constructor
              · rw [List.map_cons, same]
              · exact successful.cons asked value
          | error code =>
              obtain ⟨cause, failed, -⟩ := passes code
              rw [failed] at rest
              cases rest
              cases ends

/-- An answer that is an error code is the first one and the last, and the failure
shows it. -/
theorem Strict.failing (strict : query.Strict names)
    (transcript : query.Transcript exchange ending) {before after : Exchange} {name : Text}
    {code : ErrorCode} (split : exchange = before ++ (name, .error code) :: after) :
    after = [] ∧ before.Successful ∧
      ∃ cause, ending = .error (.error cause) ∧ cause.code = code := by
  induction transcript generalizing names before with
  | done result => exact absurd split.symm (by simp)
  | fail failure => exact absurd split.symm (by simp)
  | @ask room asked next answer exchange ending rest inductionHypothesis =>
      cases strict with
      | @ask _ _ _ names passes strictRest =>
          cases answer with
          | number value =>
              cases before with
              | nil => cases split
              | cons first before =>
                  obtain ⟨rfl, splitRest⟩ := List.cons.inj split
                  obtain ⟨last, successful, failed⟩ :=
                    inductionHypothesis (strictRest value) splitRest
                  exact ⟨last, successful.cons asked value, failed⟩
          | error other =>
              obtain ⟨cause, failed, shown⟩ := passes other
              rw [failed] at rest
              cases rest
              cases before with
              | nil =>
                  cases split
                  exact ⟨rfl, List.forall_mem_nil _, cause, rfl, shown⟩
              | cons first before => exact absurd (List.cons.inj split).2.symm (by simp)

end Query

/-! ## Strict expressions -/

/-- An expression made of numbers, references, signs, operations, parentheses and
calls of functions that want a number from each argument.  From left to right, and
ranges row by row, it writes the names.  The arguments of a call are written by
such expressions, and those of a function of items may be ranges. -/
inductive Expression.Strict (functions : Registry) : Expression → List Text → Prop where
  | number (numeral : Numeral) : Strict functions (.number numeral) []
  | reference (column : Letters) (row : Digits) :
      Strict functions (.reference column row) [column.text ++ row.text]
  | signed (sign : Sign) {operand : Expression} {names : List Text}
      (strict : Strict functions operand names) :
      Strict functions (.signed sign operand) names
  | binary (operator : Operator) {left right : Expression} {names names' : List Text}
      (leftStrict : Strict functions left names)
      (rightStrict : Strict functions right names') :
      Strict functions (.binary operator left right) (names ++ names')
  | group {inner : Expression} {names : List Text} (strict : Strict functions inner names) :
      Strict functions (.group inner) names
  | items {function : Letters} {arguments : List Text} {builtin : Builtin}
      {expressionOf : Text → Expression} {namesOf : Text → List Text}
      (found : functions.find? (Text.upper function.text) = some builtin.body)
      (takes : builtin.takesItems = true)
      (ranges : ∀ argument ∈ Arguments.passed arguments, ∀ range,
        Range.ofText? argument = .ok (some range) → namesOf argument = range.names)
      (written : ∀ argument ∈ Arguments.passed arguments, Range.ofText? argument = .ok none →
        (expressionOf argument).Writes argument)
      (others : ∀ argument ∈ Arguments.passed arguments, Range.ofText? argument = .ok none →
        Strict functions (expressionOf argument) (namesOf argument)) :
      Strict functions (.call function arguments)
        ((Arguments.passed arguments).flatMap namesOf)
  | values {function : Letters} {arguments : List Text} {builtin : Builtin}
      {expressionOf : Text → Expression} {namesOf : Text → List Text}
      (found : functions.find? (Text.upper function.text) = some builtin.body)
      (takes : builtin.takesValues = true)
      (written : ∀ argument ∈ Arguments.passed arguments,
        (expressionOf argument).Writes argument)
      (each : ∀ argument ∈ Arguments.passed arguments,
        Strict functions (expressionOf argument) (namesOf argument)) :
      Strict functions (.call function arguments)
        ((Arguments.passed arguments).flatMap namesOf)

theorem Expression.Strict.formula {functions : Registry} {expression : Expression}
    {names : List Text} (strict : expression.Strict functions names) :
    expression.formula.Strict functions names := by
  induction strict with
  | number numeral => exact .number _
  | reference column row => exact .reference _
  | signed sign _ inductionHypothesis => exact .signed sign inductionHypothesis
  | binary operator _ _ leftHypothesis rightHypothesis =>
      exact .binary operator leftHypothesis rightHypothesis
  | group _ inductionHypothesis => exact .group inductionHypothesis
  | items found takes ranges written _ inductionHypothesis =>
      refine .items found takes ranges fun argument member other => ?_
      rw [Formula.ofText_of_writes (written argument member other)]
      exact inductionHypothesis argument member other
  | values found takes written _ inductionHypothesis =>
      refine .values found takes fun argument member => ?_
      rw [Formula.ofText_of_writes (written argument member)]
      exact inductionHypothesis argument member

namespace Registry

/-- Whatever a strict expression is answered: with a value, each of its names has
been asked for and answered with a number; an answer that is an error code is the
first such answer and the last question, and it is the value; and nothing is asked
out of order. -/
theorem strict_exchange {functions : Registry} {expression : Expression} {names : List Text}
    {text : Text} {room : Nat} {exchange : Exchange} {ending : Except Failure Number}
    (strict : expression.Strict functions names) (writes : expression.Writes text)
    (transcript : (functions.query room text).Transcript exchange ending) :
    (∀ value, CellValue.ofOutcome ending = .ok (.number value) →
      exchange.map Prod.fst = names ∧ exchange.Successful) ∧
    (∀ (before : Exchange) name code after, exchange = before ++ (name, .error code) :: after →
      after = [] ∧ before.Successful ∧ CellValue.ofOutcome ending = .ok (.error code)) ∧
    exchange.map Prod.fst <+: names := by
  have formula := strict.formula
  rw [← Formula.ofText_of_writes writes] at formula
  have asks := query_strict formula room
  constructor
  · intro value valued
    rcases ending with failure | result
    · rcases failure with cause | _ | escape <;> cases valued
    · exact asks.complete transcript rfl
  constructor
  · intro before name code after split
    obtain ⟨last, successful, cause, rfl, rfl⟩ := asks.failing transcript split
    exact ⟨last, successful, rfl⟩
  · exact asks.isPrefix transcript

end Registry

namespace Expression

/-- The reference with one letter and one digit. -/
def cell (column row : Char) (letter : Text.isLetter column = true)
    (digit : Text.isDigit row = true) : Expression :=
  .reference (.single column letter) (.single row digit)

/-- A sum over a range and a negated cell, times a cell. -/
def sumTimes : Expression :=
  .binary .mul
    (.call ⟨"SUM".toList, by decide, by decide⟩ ["A1:A2".toList, "-B1".toList])
    (cell 'C' '1' rfl rfl)

theorem sumTimes_writes : sumTimes.Writes "SUM(A1:A2,-B1)*C1".toList := by
  have range : Balanced false "A1:A2".toList := by
    iterate 5 apply Balanced.char (by decide) (by decide) (.inr (by decide))
    exact .nil false
  have negated : Balanced false "-B1".toList := by
    iterate 3 apply Balanced.char (by decide) (by decide) (.inr (by decide))
    exact .nil false
  have balanced : ∀ argument ∈ ["A1:A2".toList, "-B1".toList], Balanced false argument := by
    intro argument member
    rcases List.mem_pair.mp member with rfl | rfl
    · exact range
    · exact negated
  have call : Renders 2 (.call ⟨"SUM".toList, by decide, by decide⟩
      ["A1:A2".toList, "-B1".toList]) "SUM(A1:A2,-B1)".toList :=
    .weaken (@Renders.call ⟨"SUM".toList, by decide, by decide⟩ [] _ rfl balanced)
  have product : Renders 2 sumTimes "SUM(A1:A2,-B1)*C1".toList :=
    @Renders.binary .mul _ [] [] _ _ _ call rfl rfl (.reference _ _)
  exact ⟨[], _, [], rfl, rfl, .weaken product, rfl⟩

theorem sumTimes_strict : sumTimes.Strict .builtins
    ["A1".toList, "A2".toList, "B1".toList, "C1".toList] := by
  let negated : Expression := .signed .minus (cell 'B' '1' rfl rfl)
  let namesOf (argument : Text) : List Text :=
    if argument = "-B1".toList then ["B1".toList] else ["A1".toList, "A2".toList]
  have passed : Arguments.passed ["A1:A2".toList, "-B1".toList] =
      ["A1:A2".toList, "-B1".toList] := by decide +kernel
  have range : Range.ofText? "A1:A2".toList =
      .ok (some (Range.between ⟨0, 0⟩ ⟨1, 0⟩)) := by decide +kernel
  have noRange : Range.ofText? "-B1".toList = .ok none := by decide +kernel
  have ranges : ∀ argument ∈ Arguments.passed ["A1:A2".toList, "-B1".toList], ∀ written,
      Range.ofText? argument = .ok (some written) → namesOf argument = written.names := by
    rw [passed]
    intro argument member written same
    rcases List.mem_pair.mp member with rfl | rfl
    · cases range.symm.trans same
      decide +kernel
    · cases noRange.symm.trans same
  have written : ∀ argument ∈ Arguments.passed ["A1:A2".toList, "-B1".toList],
      Range.ofText? argument = .ok none → negated.Writes argument := by
    rw [passed]
    intro argument member other
    rcases List.mem_pair.mp member with rfl | rfl
    · cases range.symm.trans other
    · exact writes_of_renders (@Renders.signed .minus [] _ _ rfl (.reference _ _))
  have others : ∀ argument ∈ Arguments.passed ["A1:A2".toList, "-B1".toList],
      Range.ofText? argument = .ok none → negated.Strict .builtins (namesOf argument) := by
    rw [passed]
    intro argument member other
    rcases List.mem_pair.mp member with rfl | rfl
    · cases range.symm.trans other
    · exact .signed .minus (.reference _ _)
  have found : Registry.builtins.find? (Text.upper "SUM".toList) = some Builtin.sum.body := rfl
  have sum : Strict .builtins (.call ⟨"SUM".toList, by decide, by decide⟩
      ["A1:A2".toList, "-B1".toList]) ["A1".toList, "A2".toList, "B1".toList] :=
    .items found rfl ranges written others
  exact .binary .mul sum (.reference _ _)

end Expression

/-- With a number for each name there is a value, and all four names have been asked
for.  An error code for the third one is the value, and the fourth one is not asked
for. -/
theorem Registry.strict_exchange_sumTimes :
    (∃ exchange ending,
      (builtins.query 50 "SUM(A1:A2,-B1)*C1".toList).Transcript exchange ending ∧
        CellValue.ofOutcome ending = .ok (.number (.ofNat 4)) ∧
        exchange.map Prod.fst = ["A1".toList, "A2".toList, "B1".toList, "C1".toList] ∧
          exchange.Successful) ∧
    ∃ before ending,
      (builtins.query 50 "SUM(A1:A2,-B1)*C1".toList).Transcript
          (before ++ [("B1".toList, .error .cycle)]) ending ∧
        Exchange.Successful before ∧ CellValue.ofOutcome ending = .ok (.error .cycle) := by
  let query := builtins.query 50 "SUM(A1:A2,-B1)*C1".toList
  let twos (_ : Text) : CellValue := .number (.ofNat 2)
  let partly (name : Text) : CellValue := if name = "B1".toList then .error .cycle else twos name
  let before : Exchange := [("A1".toList, .number (.ofNat 2)), ("A2".toList, .number (.ofNat 2))]
  have complete := query.transcript_of_answers twos
  have failing := query.transcript_of_answers partly
  have split : ((query.requests partly).map fun name => (name, partly name)) =
      before ++ ("B1".toList, .error .cycle) :: [] := by decide +kernel
  constructor
  · have value : CellValue.ofOutcome (query.outcome twos) = .ok (.number (.ofNat 4)) := by
      decide +kernel
    obtain ⟨answered, -, -⟩ :=
      strict_exchange Expression.sumTimes_strict Expression.sumTimes_writes complete
    exact ⟨_, _, complete, value, answered _ value⟩
  · obtain ⟨-, first, -⟩ :=
      strict_exchange Expression.sumTimes_strict Expression.sumTimes_writes failing
    obtain ⟨-, successful, value⟩ := first before _ _ _ split
    exact ⟨before, _, split ▸ failing, successful, value⟩

end Spreadsheet
