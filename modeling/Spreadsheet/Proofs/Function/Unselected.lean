import Spreadsheet.Proofs.Formula.Context
import Spreadsheet.Proofs.Formula.Position
import Spreadsheet.Proofs.Function.Called

/-!
# Arguments that are not selected

A choice evaluates its condition and then one of its branches; a conjunction or disjunction
stops at the first argument that decides it.  The other arguments may be any texts at all.
They are split off and passed on, but never read, so that nothing in them is asked for or can
fail, and what follows the call in a formula goes on behind it as before.
-/

namespace Spreadsheet

namespace Function

/-- The last of the values decides, and none of the others does. -/
def DecidesLast (decides : Number → Bool) (values : List Number) : Prop :=
  ∃ earlier last, values = earlier ++ [last] ∧
    (∀ value ∈ earlier, decides value = false) ∧ decides last = true

theorem DecidesLast.of_single {decides : Number → Bool} {value : Number}
    (last : DecidesLast decides [value]) : decides value = true := by
  obtain ⟨earlier, last, same, -, decided⟩ := last
  rcases List.append_eq_singleton_iff.mp same.symm with ⟨-, same⟩ | ⟨-, impossible⟩
  · cases same
    exact decided
  · cases impossible

theorem DecidesLast.tail {decides : Number → Bool} {value : Number} {values : List Number}
    (last : DecidesLast decides (value :: values)) (undecided : decides value = false) :
    DecidesLast decides values := by
  obtain ⟨earlier, last, same, before, decided⟩ := last
  cases earlier with
  | nil =>
      cases same
      exact absurd (decided.symm.trans undecided) (by decide)
  | cons first earlier =>
      cases same
      exact ⟨earlier, last, rfl, fun value member => before value (.tail _ member), decided⟩

/-- Whatever stands behind an argument that decides makes no difference. -/
theorem decideBy_sameWhere (call : Call) (decides : Number → Bool) (decision : Bool)
    (earlier : List Text) (deciding : Text) (rest rest' arguments arguments' : List Text) :
    Query.SameWhere ((earlier ++ [deciding]).mapM call.evaluate) (DecidesLast decides)
      (decideBy { call with arguments := arguments } decides decision
        (earlier ++ deciding :: rest))
      (decideBy { call with arguments := arguments' } decides decision
        (earlier ++ deciding :: rest')) := by
  induction earlier with
  | nil =>
      rw [List.nil_append, List.mapM_cons]
      refine Query.SameWhere.bind fun value => Query.sameWhere_pure fun last => ?_
      rw [if_pos last.of_single, if_pos last.of_single]
      exact Query.alike_wording _
  | cons argument earlier inductionHypothesis =>
      rw [List.cons_append, List.mapM_cons]
      refine Query.SameWhere.bind fun value => ?_
      by_cases decided : decides value = true
      · simp only [if_pos decided]
        exact Query.sameWhere_of_alike (Query.alike_wording _)
      · simp only [if_neg decided]
        rw [← map_eq_pure_bind]
        refine Query.SameWhere.map (inductionHypothesis.mono fun values last => ?_)
        exact last.tail (Bool.eq_false_iff.mpr decided)

/-- A choice whose condition is true makes no use of the branch for a false one, -/
theorem ifThen_sameWhere_true (call : Call) (condition whenTrue : Text)
    {more more' : List Text} (atMost : more.length ≤ 1) (atMost' : more'.length ≤ 1) :
    Query.SameWhere ([condition].mapM call.evaluate)
      (fun values => ∀ value ∈ values, value.isSignificant = true)
      (ifThen { call with arguments := condition :: whenTrue :: more })
      (ifThen { call with arguments := condition :: whenTrue :: more' }) := by
  have chosen (other : List Text) (atMost : other.length ≤ 1) :
      ∃ whenFalse, ifThen { call with arguments := condition :: whenTrue :: other } =
        choose call condition whenTrue whenFalse := by
    match other, atMost with
    | [], _ => exact ⟨none, rfl⟩
    | [text], _ => exact ⟨some text, rfl⟩
  obtain ⟨whenFalse, same⟩ := chosen more atMost
  obtain ⟨whenFalse', same'⟩ := chosen more' atMost'
  rw [same, same', List.mapM_cons]
  refine Query.SameWhere.bind fun value => Query.sameWhere_pure fun holds => ?_
  have significant : value.isSignificant = true := holds value List.mem_cons_self
  simp only [if_pos significant]
  exact Query.alike_wording _

/-- and one whose condition is not true makes none of the branch for a true one. -/
theorem ifThen_sameWhere_false (call : Call) (condition : Text) {whenTrue whenTrue' : Text}
    (whenFalse : Text) (solid : whenTrue ≠ []) (solid' : whenTrue' ≠ []) :
    Query.SameWhere ([condition].mapM call.evaluate)
      (fun values => ∀ value ∈ values, value.isSignificant = false)
      (ifThen { call with arguments := [condition, whenTrue, whenFalse] })
      (ifThen { call with arguments := [condition, whenTrue', whenFalse] }) := by
  rw [List.mapM_cons]
  refine Query.SameWhere.bind fun value => Query.sameWhere_pure fun holds => ?_
  have insignificant : ¬ value.isSignificant = true :=
    Bool.eq_false_iff.mp (holds value List.mem_cons_self)
  have written : ¬ whenTrue.isEmpty = true := fun none => solid (List.isEmpty_iff.mp none)
  have written' : ¬ whenTrue'.isEmpty = true := fun none => solid' (List.isEmpty_iff.mp none)
  rw [if_neg written, if_neg written', if_neg insignificant, if_neg insignificant]
  exact Query.alike_wording _

end Function

/-! ## Calls in a formula -/

/-- A place for a call of a function in the text of a formula.  The text in front of it leaves
frames open and expects an operand. -/
structure CallPlace where
  before : Text
  function : Letters
  after : Text
  position : Nat
  frames : List Frame
  stands : before.foldl Reader.step Reader.start = .reading position frames .operand

namespace CallPlace

/-- The text of the formula with arguments in the call. -/
def text (place : CallPlace) (arguments : List Text) : Text :=
  place.before ++ place.function.called arguments ++ place.after

/-- The formula is a context of the call.  The frames at its place are those that are open in
front of it, and nothing but the positions in messages depends on the arguments. -/
theorem exists_context (place : CallPlace) :
    ∃ context : Formula.Context, context.frames = place.frames ∧
      ∀ arguments : List Text, (∀ argument ∈ arguments, Balanced false argument) →
        (Formula.ofText (place.text arguments)).SameButWording (context.fill
          (.call (Text.upper place.function.text) (Arguments.passed arguments))) := by
  obtain ⟨context, within, same⟩ :=
    Reader.exists_context place.position place.frames place.after
  refine ⟨context, within, fun arguments balanced => ?_⟩
  obtain ⟨position', read⟩ :=
    Reader.foldl_call place.position place.frames place.function
      (show ([] : Text).all Text.isGap = true from rfl) balanced
  rw [List.nil_append] at read
  rw [← same, Formula.ofText, text, List.foldl_append, List.foldl_append, place.stands,
    Letters.called, read]
  exact ((Reader.SameButPosition.reading position' place.position place.frames _).foldl_step
    place.after).finish

end CallPlace

namespace Registry

/-- What is evaluated in a formula until arguments of a call in it have been evaluated: the
operands in the frames around the call, and then these arguments.  The result is the values
of the arguments. -/
def argumentValues (functions : Registry) (room : Nat) (frames : List Frame)
    (arguments : List Text) : Query (List Number) :=
  Query.within Nesting.formula room fun rest => do
    let inner ← Frame.reach (functions.invoke (functions.evaluate rest)) rest frames
    Query.within Nesting.call inner fun left =>
      (arguments.map Text.strip).mapM (Call.evaluate ⟨[], left, functions.evaluate rest⟩)

variable {functions : Registry} {place : CallPlace} {room : Nat}

/-- What holds of the bodies of two calls holds of the formulas that have them in one
place. -/
theorem query_sameWhere {body : FunctionBody} {evaluated arguments arguments' : List Text}
    {holds : List Number → Prop}
    (found : functions.find? (Text.upper place.function.text) = some body)
    (balanced : ∀ argument ∈ arguments, Balanced false argument)
    (balanced' : ∀ argument ∈ arguments', Balanced false argument)
    (same : ∀ calls left, Query.SameWhere
      ((evaluated.map Text.strip).mapM (Call.evaluate ⟨[], left, functions.evaluate calls⟩)) holds
      (body ⟨Arguments.passed arguments, left, functions.evaluate calls⟩)
      (body ⟨Arguments.passed arguments', left, functions.evaluate calls⟩)) :
    Query.SameWhere (functions.argumentValues room place.frames evaluated) holds
      (functions.query room (place.text arguments))
      (functions.query room (place.text arguments')) := by
  obtain ⟨context, within, read⟩ := place.exists_context
  refine Query.SameWhere.within fun rest => ?_
  rw [← within, ← context.fst_approach, bind_map_left]
  refine Query.SameWhere.congr (read arguments balanced _ _) (read arguments' balanced' _ _) ?_
  rw [context.evaluate_fill, context.evaluate_fill]
  refine Query.SameWhere.bind fun here => ?_
  refine Query.SameWhere.andThen ?_ here.2
  simp only [Formula.evaluate, found]
  exact Query.SameWhere.within fun left => same rest left

theorem evaluate_blank (functions : Registry) (calls left : Nat) :
    ∃ failure, Call.evaluate ⟨[], left, functions.evaluate calls⟩ [] = .fail failure := by
  rw [Call.evaluate, Call.within, Query.within]
  split
  · cases calls with
    | zero => exact ⟨_, rfl⟩
    | succ calls => exact ⟨_, rfl⟩
  · exact ⟨_, rfl⟩

/-- A function that stops at the first argument that decides, in a formula. -/
theorem query_decideBy_sameWhere {decides : Number → Bool} (decision : Bool)
    (found : functions.find? (Text.upper place.function.text) =
      some fun call => Function.decideBy call decides decision call.arguments)
    {earlier rest rest' : List Text} {deciding : Text}
    (balanced : ∀ text ∈ earlier ++ deciding :: rest ++ rest', Balanced false text) :
    Query.SameWhere (functions.argumentValues room place.frames (earlier ++ [deciding]))
      (Function.DecidesLast decides)
      (functions.query room (place.text (earlier ++ deciding :: rest)))
      (functions.query room (place.text (earlier ++ deciding :: rest'))) := by
  obtain ⟨first, behind'⟩ := List.forall_mem_append.mp balanced
  obtain ⟨before, from'⟩ := List.forall_mem_append.mp first
  have second : ∀ text ∈ earlier ++ deciding :: rest', Balanced false text :=
    List.forall_mem_append.mpr
      ⟨before, List.forall_mem_cons.mpr ⟨from' deciding List.mem_cons_self, behind'⟩⟩
  refine query_sameWhere found first second fun calls left => ?_
  rw [List.map_append]
  by_cases blank : deciding.strip = []
  · -- then nothing has been decided
    obtain ⟨failure, fails⟩ := functions.evaluate_blank calls left
    rw [List.map_singleton, blank, List.mapM_append, List.mapM_cons, fails]
    exact Query.sameWhere_fail
  · have passed (behind : List Text) : Arguments.passed (earlier ++ deciding :: behind) =
        earlier.map Text.strip ++ deciding.strip :: behind.map Text.strip := by
      rw [Arguments.passed_of_mem (List.mem_append_right _ List.mem_cons_self) blank,
        List.map_append, List.map_cons]
    rw [passed, passed]
    exact Function.decideBy_sameWhere ⟨[], left, functions.evaluate calls⟩ decides decision
      _ _ _ _ _ _

/-- Arguments that are not selected may be any texts.  Where a call of `IF`, `AND` or `OR`
stands in a formula, with operands and parentheses around it, the formula is evaluated in the
same way whatever these arguments are: once the condition of a choice has a value, the branch
that is not taken makes no difference, and once an argument of a conjunction or disjunction
decides, the arguments behind it make none. -/
theorem unselected_ignored (functions : Registry) (place : CallPlace) (room : Nat) :
    let values := functions.argumentValues room place.frames
    let formula arguments := functions.query room (place.text arguments)
    (functions.find? (Text.upper place.function.text) = some Function.ifThen →
      (∀ condition whenTrue more more', more.length ≤ 1 → more'.length ≤ 1 →
        (∀ text ∈ condition :: whenTrue :: more ++ more', Balanced false text) →
        Query.SameWhere (values [condition])
          (fun found => ∀ value ∈ found, value.isSignificant = true)
          (formula (condition :: whenTrue :: more)) (formula (condition :: whenTrue :: more'))) ∧
      ∀ condition whenTrue whenTrue' whenFalse, whenTrue.strip ≠ [] → whenTrue'.strip ≠ [] →
        (∀ text ∈ [condition, whenTrue, whenTrue', whenFalse], Balanced false text) →
        Query.SameWhere (values [condition])
          (fun found => ∀ value ∈ found, value.isSignificant = false)
          (formula [condition, whenTrue, whenFalse])
          (formula [condition, whenTrue', whenFalse])) ∧
    ∀ decides : Number → Bool,
      functions.find? (Text.upper place.function.text) = some Function.and ∧
          decides = Number.isNegligible ∨
        functions.find? (Text.upper place.function.text) = some Function.or ∧
          decides = Number.isSignificant →
      ∀ earlier deciding rest rest',
        (∀ text ∈ earlier ++ deciding :: rest ++ rest', Balanced false text) →
        Query.SameWhere (values (earlier ++ [deciding])) (Function.DecidesLast decides)
          (formula (earlier ++ deciding :: rest)) (formula (earlier ++ deciding :: rest')) := by
  intro values formula
  refine ⟨fun found => ⟨?_, ?_⟩, ?_⟩
  · intro condition whenTrue more more' atMost atMost' balanced
    obtain ⟨first, behind'⟩ := List.forall_mem_append.mp balanced
    have second : ∀ text ∈ condition :: whenTrue :: more', Balanced false text :=
      List.forall_mem_cons.mpr ⟨first condition List.mem_cons_self, List.forall_mem_cons.mpr
        ⟨first whenTrue (.tail _ List.mem_cons_self), behind'⟩⟩
    refine query_sameWhere found first second fun calls left => ?_
    exact Function.ifThen_sameWhere_true ⟨[], left, functions.evaluate calls⟩ condition.strip
      whenTrue.strip (by rwa [List.length_map]) (by rwa [List.length_map])
  · intro condition whenTrue whenTrue' whenFalse solid solid' balanced
    simp only [List.forall_mem_cons] at balanced
    obtain ⟨ofCondition, ofTrue, ofTrue', ofFalse, -⟩ := balanced
    have of (branch : Text) (balanced : Balanced false branch) :
        ∀ text ∈ [condition, branch, whenFalse], Balanced false text := by
      simp only [List.forall_mem_cons]
      exact ⟨ofCondition, balanced, ofFalse, nofun⟩
    refine query_sameWhere found (of _ ofTrue) (of _ ofTrue') fun calls left => ?_
    exact Function.ifThen_sameWhere_false ⟨[], left, functions.evaluate calls⟩ condition.strip
      whenFalse.strip solid solid'
  · rintro decides (⟨found, rfl⟩ | ⟨found, rfl⟩) earlier deciding rest rest' balanced
    · exact query_decideBy_sameWhere false found balanced
    · exact query_decideBy_sameWhere true found balanced

/-- Somebody who answers every question with one and remembers what has been asked. -/
def answerOne (_ : Nat) (name : Text) : ExceptT Empty (StateM (List Text)) CellValue :=
  ExceptT.mk fun asked => (.ok (.number (.ofNat 1)), asked ++ [name])

/-- Calls in the midst of a formula: instead of an argument that cannot be read there may as
well be none, or another one, and what stands behind the call is asked for. -/
theorem unselected_ignored_malformed :
    ((builtins.query 60 "A1+(If(C1,D1,1 x 2))*B1".toList).hold answerOne []).2 =
      ["A1".toList, "C1".toList, "D1".toList, "B1".toList] ∧
    Query.shown ((builtins.query 60 "A1+(If(C1,D1,1 x 2))*B1".toList).hold answerOne []) =
      Query.shown ((builtins.query 60 "A1+(If(C1,D1))*B1".toList).hold answerOne []) ∧
    Query.shown ((builtins.query 60 "A1+(If(0,1 x 2,D1))*B1".toList).hold answerOne []) =
      Query.shown ((builtins.query 60 "A1+(If(0,E1,D1))*B1".toList).hold answerOne []) ∧
    Query.shown ((builtins.query 60 "A1+(And(C1,0,1 x 2))*B1".toList).hold answerOne []) =
      Query.shown ((builtins.query 60 "A1+(And(C1,0))*B1".toList).hold answerOne []) ∧
    Query.shown ((builtins.query 60 "A1+(Or(0,C1,1 x 2))*B1".toList).hold answerOne []) =
      Query.shown ((builtins.query 60 "A1+(Or(0,C1,E1,F1))*B1".toList).hold answerOne []) := by
  let place (function : Letters) : CallPlace := {
    before := "A1+(".toList
    function := function
    after := ")*B1".toList
    position := 4
    frames := [.group, .left (.reference "A1".toList) .add]
    stands := by decide +kernel }
  let choice : CallPlace := place ⟨"If".toList, by decide, by decide⟩
  let conjunction : CallPlace := place ⟨"And".toList, by decide, by decide⟩
  let disjunction : CallPlace := place ⟨"Or".toList, by decide, by decide⟩
  obtain ⟨whenTrue, whenFalse⟩ := (unselected_ignored builtins choice 60).1 (by rfl)
  have ofConjunction := (unselected_ignored builtins conjunction 60).2 _ (.inl ⟨by rfl, rfl⟩)
  have ofDisjunction := (unselected_ignored builtins disjunction 60).2 _ (.inr ⟨by rfl, rfl⟩)
  have one : (builtins.argumentValues 60 choice.frames ["C1".toList]).hold answerOne [] =
      (.ok (.ok [.ofNat 1]), ["A1".toList, "C1".toList]) := by
    rfl
  have zero : (builtins.argumentValues 60 choice.frames ["0".toList]).hold answerOne [] =
      (.ok (.ok [.zero false]), ["A1".toList]) := by
    rfl
  have oneZero : (builtins.argumentValues 60 choice.frames ["C1".toList, "0".toList]).hold
      answerOne [] = (.ok (.ok [.ofNat 1, .zero false]), ["A1".toList, "C1".toList]) := by
    rfl
  have zeroOne : (builtins.argumentValues 60 choice.frames ["0".toList, "C1".toList]).hold
      answerOne [] = (.ok (.ok [.zero false, .ofNat 1]), ["A1".toList, "C1".toList]) := by
    rfl
  refine ⟨by decide +kernel, ?_, ?_, ?_, ?_⟩
  · exact whenTrue "C1".toList "D1".toList ["1 x 2".toList] [] (by decide) (by decide)
      (by decide) _ _ answerOne [] _ _ one (by decide +kernel)
  · exact whenFalse "0".toList "1 x 2".toList "E1".toList "D1".toList (by decide) (by decide)
      (by decide) _ _ answerOne [] _ _ zero (by decide +kernel)
  · exact ofConjunction ["C1".toList] "0".toList ["1 x 2".toList] []
      (by decide) _ _ answerOne [] _ _ oneZero
      ⟨[.ofNat 1], .zero false, rfl, by decide +kernel, by decide +kernel⟩
  · exact ofDisjunction ["0".toList] "C1".toList ["1 x 2".toList] ["E1".toList, "F1".toList]
      (by decide) _ _ answerOne [] _ _ zeroOne
      ⟨[.zero false], .ofNat 1, rfl, by decide +kernel, by decide +kernel⟩

end Registry

end Spreadsheet
