import Spreadsheet.Proofs.Function.Evaluation

/-!
# Strict formulas

A strict formula is made of numbers, references, signs, operations, parentheses
and calls of the built-in functions that want a number from each of their
arguments.  From left to right it writes a list of names.  Evaluating it asks for
these names in this order, and the first answer that is an error code ends the
evaluation with a failure of the same code.
-/

namespace Spreadsheet

namespace Query

variable {α β γ : Type} {names names' : List Text}

/-- The conversation asks for the names in order and ends with the first answer
that is an error code, in a failure that shows it.  It may also fail by itself
before all names have been asked for. -/
inductive Strict : Query α → List Text → Prop where
  | done (result : α) : Strict (.done result) []
  | fail (failure : Failure) (names : List Text) : Strict (.fail failure) names
  | ask {room : Nat} {name : Text} {next : CellValue → Query α} {names : List Text}
      (passes : ∀ code, ∃ cause, next (.error code) = .error cause ∧ cause.code = code)
      (rest : ∀ value, Strict (next (.number value)) names) :
      Strict (.ask room name next) (name :: names)

theorem Strict.error (cause : Cause) (names : List Text) :
    Strict (Query.error cause : Query α) names :=
  .fail (.error cause) names

theorem Strict.bind {query : Query α} {rest : α → Query β} (first : query.Strict names)
    (second : ∀ result, (rest result).Strict names') :
    (query >>= rest).Strict (names ++ names') := by
  induction first with
  | done result => exact second result
  | fail failure names => exact .fail failure _
  | @ask room name next names passes _ inductionHypothesis =>
      refine Strict.ask (fun code => ?_) inductionHypothesis
      obtain ⟨cause, failed, shown⟩ := passes code
      exact ⟨cause, by rw [failed]; rfl, shown⟩

theorem Strict.bind_nil {query : Query α} {rest : α → Query β} (first : query.Strict names)
    (second : ∀ result, (rest result).Strict []) : (query >>= rest).Strict names :=
  List.append_nil names ▸ first.bind second

theorem Strict.map (change : α → β) {query : Query α} (first : query.Strict names) :
    (change <$> query).Strict names := by
  rw [map_eq_pure_bind]
  exact first.bind_nil fun result => .done (change result)

theorem Strict.foldlM {step : β → γ → Query β} {items : List γ} (namesOf : γ → List Text)
    (strict : ∀ item ∈ items, ∀ state, (step state item).Strict (namesOf item)) (state : β) :
    (items.foldlM step state).Strict (items.flatMap namesOf) := by
  induction items generalizing state with
  | nil => exact .done state
  | cons item items inductionHypothesis =>
      rw [List.foldlM_cons, List.flatMap_cons]
      refine (strict item List.mem_cons_self state).bind fun next => ?_
      exact inductionHypothesis (fun later member => strict later (List.mem_cons_of_mem _ member))
        next

theorem Strict.within {share room : Nat} {inner : Nat → Query α}
    (strict : ∀ rest, (inner rest).Strict names) : (within share room inner).Strict names := by
  rw [Query.within]
  split
  · exact strict _
  · exact .fail .tooDeep _

/-! ## Items of which numbers are taken -/

/-- A step takes the number out of an item, and a code is its failure. -/
structure Takes (step : β → CellValue → Query β) : Prop where
  passes (state : β) (code : ErrorCode) :
    ∃ cause, step state (.error code) = .error cause ∧ cause.code = code
  rest (state : β) (value : Number) : (step state (.number value)).Strict []

theorem takes_number (step : β → Number → β) :
    Takes fun state item => step state <$> number item where
  passes _ code := ⟨.answered code, rfl, rfl⟩
  rest state value := .done (step state value)

variable {step : β → CellValue → Query β}

theorem Takes.request (takes : Takes step) (room : Nat) (name : Text) (state : β) :
    (request room name >>= step state).Strict [name] := by
  rw [Query.request, Query.within]
  split
  · exact .ask (takes.passes state) (takes.rest state)
  · exact .fail .tooDeep _

theorem Takes.caught (takes : Takes step) {query : Query Number} (strict : query.Strict names)
    (state : β) : (query.caught >>= step state).Strict names := by
  induction strict with
  | done result => exact takes.rest state result
  | fail failure names =>
      cases failure with
      | error cause =>
          obtain ⟨passed, failed, -⟩ := takes.passes state cause.code
          change (step state (.error cause.code)).Strict names
          rw [failed]
          exact .error passed names
      | tooDeep => exact .fail .tooDeep names
      | escape escape => exact .fail (.escape escape) names
  | @ask room name next names passes _ inductionHypothesis =>
      refine Strict.ask (fun code => ?_) inductionHypothesis
      obtain ⟨cause, failed, shown⟩ := passes code
      obtain ⟨passed, failed', shown'⟩ := takes.passes state cause.code
      refine ⟨passed, ?_, shown'.trans shown⟩
      change (next (.error code)).caught >>= step state = _
      rw [failed]
      exact failed'

end Query

/-! ## Ranges and arguments -/

namespace Range

variable {β : Type} {step : β → CellValue → Query β}

/-- The names of the cells, row by row. -/
def names (range : Range) : List Text :=
  range.cells.map fun cell => Coord.nameOf cell.1 cell.2

theorem foldRow_strict (takes : Query.Takes step) (room row count column : Nat) (state : β) :
    (foldRow room step row column count state).Strict
      ((rowCells row column count).map fun cell => Coord.nameOf cell.1 cell.2) := by
  induction count generalizing column state with
  | zero => exact .done state
  | succ count inductionHypothesis =>
      have first := takes.request room (Coord.nameOf row column) state
      rw [foldRow, ← Query.bind_assoc]
      exact first.bind fun next => inductionHypothesis (column + 1) next

theorem foldRows_strict (takes : Query.Takes step) (range : Range) (room count row : Nat)
    (state : β) :
    (range.foldRows room step row count state).Strict
      ((range.cellsFrom row count).map fun cell => Coord.nameOf cell.1 cell.2) := by
  induction count generalizing row state with
  | zero => exact .done state
  | succ count inductionHypothesis =>
      rw [foldRows, cellsFrom, List.map_append]
      exact (foldRow_strict takes room row range.width range.left state).bind fun next =>
        inductionHypothesis (row + 1) next

theorem foldCells_strict (takes : Query.Takes step) (range : Range) (room : Nat) (state : β) :
    (range.foldCells room step state).Strict range.names :=
  range.foldRows_strict takes room range.height range.top state

end Range

namespace Call

variable {β : Type} {step : β → CellValue → Query β} {call : Call} {argument : Text}
  {names : List Text}

/-- The expression that the argument is asks for the names. -/
def Evaluates (call : Call) (argument : Text) (names : List Text) : Prop :=
  ∀ room, (call.expression room argument).Strict names

/-- The argument is a range with the names, or an expression that asks for them. -/
def Gives (call : Call) (argument : Text) (names : List Text) : Prop :=
  (∀ range, Range.ofText? argument = .ok (some range) → names = range.names) ∧
    (Range.ofText? argument = .ok none → call.Evaluates argument names)

theorem within_strict {share : Nat} {inner : Call → Query β}
    (strict : ∀ rest, (inner { call with room := rest }).Strict names) :
    (call.within share inner).Strict names :=
  Query.Strict.within strict

theorem Evaluates.evaluate (evaluates : call.Evaluates argument names) :
    (call.evaluate argument).Strict names :=
  within_strict fun rest => evaluates rest

theorem Gives.foldItems (gives : call.Gives argument names) (takes : Query.Takes step)
    (state : β) : (call.foldItems step state argument).Strict names := by
  refine within_strict fun rest => ?_
  split
  · exact .error .blankArgument names
  · rw [range?]
    cases read : Range.ofText? argument with
    | error fault => exact .fail (.escape .rowTooLong) names
    | ok written =>
        cases written with
        | some range =>
            rw [gives.1 range read]
            exact range.foldCells_strict takes rest state
        | none =>
            have evaluates : ({ call with room := rest } : Call).Evaluates argument names :=
              gives.2 read
            exact takes.caught evaluates.evaluate state

theorem Gives.foldNumbers (gives : call.Gives argument names) (step : β → Number → β)
    (state : β) : (call.foldNumbers step state argument).Strict names := by
  refine within_strict fun rest => ?_
  have inner : ({ call with room := rest } : Call).Gives argument names := gives
  exact inner.foldItems (Query.takes_number step) state

theorem foldAll_strict (namesOf : Text → List Text)
    (gives : ∀ argument ∈ call.arguments, call.Gives argument (namesOf argument))
    (step : β → Number → β) (state : β) :
    (call.foldAll step state).Strict (call.arguments.flatMap namesOf) :=
  .foldlM namesOf (fun argument member state => (gives argument member).foldNumbers step state)
    state

end Call

/-! ## Built-in functions -/

namespace Builtin

/-- The functions of the numbers of all arguments, ranges among them. -/
def takesItems : Builtin → Bool
  | sum => true
  | average => true
  | min => true
  | max => true
  | _ => false

/-- The functions of the values of all arguments. -/
def takesValues : Builtin → Bool
  | round => true
  | not => true
  | _ => false

variable {builtin : Builtin} {call : Call} {namesOf : Text → List Text}

/-- A function of numbers asks for what its arguments give. -/
theorem body_strict_of_takesItems (takes : builtin.takesItems = true)
    (gives : ∀ argument ∈ call.arguments, call.Gives argument (namesOf argument)) :
    (builtin.body call).Strict (call.arguments.flatMap namesOf) := by
  have extreme (choose : Number → Number → Number) :
      (Function.extreme choose call).Strict (call.arguments.flatMap namesOf) := by
    refine Query.Strict.bind_nil ?_ fun best => .done _
    exact Call.within_strict fun rest =>
      ({ call with room := rest } : Call).foldAll_strict namesOf gives _ _
  cases builtin with
  | sum => exact call.foldAll_strict namesOf gives _ _
  | average => exact (call.foldAll_strict namesOf gives _ _).bind_nil fun _ => .done _
  | min => exact extreme Number.earlierMin
  | max => exact extreme Number.earlierMax
  | _ => cases takes

theorem rounded_strict (value places : Number) :
    (Function.rounded value places).Strict [] := by
  rw [Function.rounded]
  cases Function.roundTo value places with
  | ok result => exact .done result
  | error fault => exact .error (.rounding fault) []

/-- A function of values asks for what its arguments ask for. -/
theorem body_strict_of_takesValues (takes : builtin.takesValues = true)
    (evaluates : ∀ argument ∈ call.arguments, call.Evaluates argument (namesOf argument)) :
    (builtin.body call).Strict (call.arguments.flatMap namesOf) := by
  obtain ⟨arguments, room, expression⟩ := call
  cases builtin with
  | round =>
      match arguments with
      | [value] =>
          have first := (evaluates value (by simp)).evaluate
          have whole := first.bind fun number => rounded_strict number (.zero false)
          simpa [body, Function.round] using whole
      | [value, places] =>
          have first := (evaluates value (by simp)).evaluate
          have second := (evaluates places (by simp)).evaluate
          have whole := first.bind fun number =>
            second.bind fun digits => rounded_strict number digits
          simpa [body, Function.round] using whole
      | [] => exact .error _ _
      | _ :: _ :: _ :: _ => exact .error _ _
  | not =>
      match arguments with
      | [value] =>
          have first := (evaluates value (by simp)).evaluate
          have whole := first.map fun number => Function.truth number.isNegligible
          simpa [body, Function.not] using whole
      | [] => exact .error _ _
      | _ :: _ :: _ => exact .error _ _
  | _ => cases takes

end Builtin

/-! ## Formulas -/

/-- A formula is strict, and from left to right it writes the names.  Where it goes
wrong it is strict, too. -/
inductive Formula.Strict (functions : Registry) : Formula → List Text → Prop where
  | number (value : Number) : Strict functions (.number value) []
  | reference (name : Text) : Strict functions (.reference name) [name]
  | signed (sign : Sign) {operand : Formula} {names : List Text}
      (strict : Strict functions operand names) :
      Strict functions (.signed sign operand) names
  | binary (operator : Operator) {left right : Formula} {names names' : List Text}
      (leftStrict : Strict functions left names)
      (rightStrict : Strict functions right names') :
      Strict functions (.binary operator left right) (names ++ names')
  | group {inner : Formula} {names : List Text} (strict : Strict functions inner names) :
      Strict functions (.group inner) names
  | items {function : Text} {arguments : List Text} {builtin : Builtin}
      {namesOf : Text → List Text} (found : functions.find? function = some builtin.body)
      (takes : builtin.takesItems = true)
      (ranges : ∀ argument ∈ arguments, ∀ range,
        Range.ofText? argument = .ok (some range) → namesOf argument = range.names)
      (others : ∀ argument ∈ arguments, Range.ofText? argument = .ok none →
        Strict functions (.ofText argument) (namesOf argument)) :
      Strict functions (.call function arguments) (arguments.flatMap namesOf)
  | values {function : Text} {arguments : List Text} {builtin : Builtin}
      {namesOf : Text → List Text} (found : functions.find? function = some builtin.body)
      (takes : builtin.takesValues = true)
      (each : ∀ argument ∈ arguments, Strict functions (.ofText argument) (namesOf argument)) :
      Strict functions (.call function arguments) (arguments.flatMap namesOf)
  | broken (cause : Cause) : Strict functions (.broken cause) []
  | halted {start : Formula} (cause : Cause) {names : List Text}
      (strict : Strict functions start names) :
      Strict functions (.halted start cause) names

namespace Registry

variable {functions : Registry} {formula : Formula} {text : Text} {names : List Text}

/-- A text whose formula is strict asks for the names of the formula. -/
theorem evaluate_strict_of_ofText
    (strict : ∀ calls room,
      ((Formula.ofText text).evaluate (functions.invoke (functions.evaluate calls)) room).Strict
        names) (calls room : Nat) :
    (functions.evaluate calls room text).Strict names := by
  cases calls with
  | zero => exact .fail .tooDeep names
  | succ calls => exact strict calls room

/-- A strict formula asks for the names that it writes. -/
theorem evaluate_strict (strict : formula.Strict functions names) (calls room : Nat) :
    (formula.evaluate (functions.invoke (functions.evaluate calls)) room).Strict names := by
  induction strict generalizing calls room with
  | number value => exact .done value
  | reference name =>
      refine .within fun rest => ?_
      have taken := (Query.takes_number fun _ value => value).request rest name (.zero false)
      simpa using taken
  | signed sign _ inductionHypothesis =>
      exact .within fun rest => (inductionHypothesis calls rest).map _
  | binary operator _ _ leftHypothesis rightHypothesis =>
      refine (leftHypothesis calls room).bind fun first =>
        (rightHypothesis calls room).bind_nil fun second => ?_
      cases operator with
      | div =>
          simp only [Operator.apply]
          split
          · exact .error _ []
          · exact .done _
      | _ => exact .done _
  | group _ inductionHypothesis => exact .within fun rest => inductionHypothesis calls rest
  | broken cause => exact .error cause []
  | halted cause _ inductionHypothesis =>
      exact (inductionHypothesis calls room).bind_nil fun _ => .error cause []
  | @items function arguments builtin namesOf found takes ranges _ inductionHypothesis =>
      simp only [Formula.evaluate, invoke, found]
      refine .within fun rest => builtin.body_strict_of_takesItems takes ?_
      intro argument member
      constructor
      · exact ranges argument member
      · exact fun read =>
          evaluate_strict_of_ofText (inductionHypothesis argument member read) calls
  | @values function arguments builtin namesOf found takes _ inductionHypothesis =>
      simp only [Formula.evaluate, invoke, found]
      refine .within fun rest => builtin.body_strict_of_takesValues takes ?_
      exact fun argument member =>
        evaluate_strict_of_ofText (inductionHypothesis argument member) calls

theorem query_strict (strict : (Formula.ofText text).Strict functions names) (room : Nat) :
    (functions.query room text).Strict names :=
  .within fun rest => evaluate_strict_of_ofText (evaluate_strict strict) (rest + 1) rest

end Registry

end Spreadsheet
