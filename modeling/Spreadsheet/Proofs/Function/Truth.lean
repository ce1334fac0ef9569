import Spreadsheet.Proofs.Function.Called
import Spreadsheet.Proofs.Function.Meaning
import Spreadsheet.Proofs.Number.Threshold
import Spreadsheet.Proofs.Query.Naming

/-!
# Truth

The logic functions evaluate an argument in the same way and put its value to one of two
tests.  A choice and a disjunction take what lies above the bound for true, a conjunction and
a negation what does not lie below it.  So they agree about every number but NaN and those on
the bound; and since a truth value is far from the bound, the negation of a conjunction is
the disjunction of the negations, whatever the arguments are.
-/

namespace Spreadsheet

namespace Function

theorem isSignificant_truth (holds : Bool) : (truth holds).isSignificant = holds := by
  cases holds <;> decide +kernel

theorem isNegligible_truth (holds : Bool) : (truth holds).isNegligible = !holds := by
  cases holds <;> decide +kernel

theorem one_sub_truth (holds : Bool) : Number.ofNat 1 - truth holds = truth !holds := by
  cases holds <;> decide +kernel

theorem truth_injective {holds holds' : Bool} : truth holds = truth holds' ↔ holds = holds' := by
  constructor
  · intro same
    rw [← isSignificant_truth holds, same, isSignificant_truth]
  · rintro rfl
    rfl

theorem decideBy_of_fail {call : Call} {decides : Number → Bool} {decision : Bool}
    {argument : Text} {rest : List Text} {failure : Failure}
    (fails : call.evaluate argument = .fail failure) :
    decideBy call decides decision (argument :: rest) = .fail failure := by
  rw [decideBy, fails, Query.bind_fail]

/-- Arguments decide a conjunction as their negations decide a disjunction. -/
theorem decideBy_negated {call call' : Call} {argument negation : Text → Text}
    {texts : List Text}
    (negates : ∀ text ∈ texts, call'.evaluate (negation text) =
      (fun value => truth value.isNegligible) <$> call.evaluate (argument text)) :
    decideBy call' Number.isSignificant true (texts.map negation) =
      (fun value => truth value.isNegligible) <$>
        decideBy call Number.isNegligible false (texts.map argument) := by
  induction texts with
  | nil =>
      change Query.done (truth false) = Query.done (truth (truth true).isNegligible)
      rw [isNegligible_truth]
      rfl
  | cons text texts inductionHypothesis =>
      obtain ⟨first, later⟩ := List.forall_mem_cons.mp negates
      rw [List.map_cons, List.map_cons, decideBy, decideBy, first, bind_map_left, map_bind]
      refine congrArg _ (funext fun value => ?_)
      rw [isSignificant_truth]
      cases value.isNegligible with
      | true =>
          rw [if_pos rfl, if_pos rfl, map_pure, isNegligible_truth]
          rfl
      | false =>
          rw [if_neg Bool.false_ne_true, if_neg Bool.false_ne_true]
          exact inductionHypothesis later

end Function

namespace Registry

variable {functions : Registry} {argument : Text}

theorem evaluate_truthTexts (functions : Registry) {rest : Nat} (some : 0 < rest) (inner : Nat) :
    functions.evaluate rest inner "1".toList = .done (Function.truth true) ∧
      functions.evaluate rest inner "0".toList = .done (Function.truth false) := by
  obtain ⟨calls, rfl⟩ := Nat.exists_eq_add_one.mpr some
  have one : Formula.ofText "1".toList = .number (Function.truth true) := by decide +kernel
  have zero : Formula.ofText "0".toList = .number (Function.truth false) := by decide +kernel
  rw [evaluate_succ, evaluate_succ, one, zero]
  exact ⟨rfl, rfl⟩

/-- A choice between one and zero tells whether the condition is above the bound, -/
theorem query_ifThen_truth (keeps : functions.Keeps .ifThen) (balanced : Balanced false argument)
    (room : Nat) :
    functions.query room (Builtin.ifThen.word.called [argument, "1".toList, "0".toList]) =
      (fun value => Function.truth value.isSignificant) <$>
        functions.argumentValue room argument := by
  have all : ∀ text ∈ [argument, "1".toList, "0".toList], Balanced false text := by
    simp only [List.forall_mem_cons]
    exact ⟨balanced, by decide, by decide, nofun⟩
  refine query_map_argumentValue keeps.find? all fun rest left inside => ?_
  have positive : 0 < rest := Nat.lt_of_lt_of_le (by decide) inside
  change Function.choose _ argument.strip "1".toList (some "0".toList) = _
  rw [Function.choose, map_eq_pure_bind]
  rcases Nat.lt_or_ge left Nesting.argument with full | fits
  · simp only [Call.evaluate, Call.within, Query.within_of_lt full, Query.bind_fail]
  · simp only [Call.evaluate, Call.within, Query.within_of_le fits]
    refine congrArg _ (funext fun value => ?_)
    rw [if_neg (by decide)]
    obtain ⟨one, zero⟩ := functions.evaluate_truthTexts positive (left - Nesting.argument)
    cases value.isSignificant with
    | true => exact one
    | false => exact zero

/-- and so does a disjunction of one argument. -/
theorem query_or_truth (keeps : functions.Keeps .or) (balanced : Balanced false argument)
    (solid : argument.strip ≠ []) (room : Nat) :
    functions.query room (Builtin.or.word.called [argument]) =
      (fun value => Function.truth value.isSignificant) <$>
        functions.argumentValue room argument := by
  refine query_map_argumentValue keeps.find? (List.forall_mem_singleton.mpr balanced)
    fun rest left _ => ?_
  rw [passed_single solid, map_eq_pure_bind]
  refine congrArg _ (funext fun value => ?_)
  cases value.isSignificant <;> rfl

/-- A conjunction of one argument tells whether the value is not below the bound. -/
theorem query_and_truth (keeps : functions.Keeps .and) (balanced : Balanced false argument)
    (solid : argument.strip ≠ []) (room : Nat) :
    functions.query room (Builtin.and.word.called [argument]) =
      (fun value => Function.truth !value.isNegligible) <$>
        functions.argumentValue room argument := by
  refine query_map_argumentValue keeps.find? (List.forall_mem_singleton.mpr balanced)
    fun rest left _ => ?_
  rw [passed_single solid, map_eq_pure_bind]
  refine congrArg _ (funext fun value => ?_)
  cases value.isNegligible <;> rfl

/-- A negation tells whether it is below the bound, -/
theorem query_not_truth (keeps : functions.Keeps .not) (balanced : Balanced false argument)
    (solid : argument.strip ≠ []) (room : Nat) :
    functions.query room (Builtin.not.word.called [argument]) =
      (fun value => Function.truth value.isNegligible) <$>
        functions.argumentValue room argument := by
  refine query_map_argumentValue keeps.find? (List.forall_mem_singleton.mpr balanced)
    fun rest left _ => ?_
  rw [passed_single solid, map_eq_pure_bind]
  rfl

/-- and taken from one it tells the opposite. -/
theorem query_one_sub_not (keeps : functions.Keeps .not) (balanced : Balanced false argument)
    (solid : argument.strip ≠ []) (room : Nat) :
    functions.query room ("1-".toList ++ Builtin.not.word.called [argument]) =
      (fun value => Function.truth !value.isNegligible) <$>
        functions.argumentValue room argument := by
  have all : ∀ text ∈ [argument], Balanced false text := List.forall_mem_singleton.mpr balanced
  have one : (Numeral.ofDigit '1' (by decide)).value = Number.ofNat 1 := by decide +kernel
  have read : Formula.ofText ("1-".toList ++ Builtin.not.word.called [argument]) =
      .binary .sub (.number (.ofNat 1))
        (.call (Text.upper Builtin.not.word.text) (Arguments.passed [argument])) :=
    one ▸ Formula.ofText_binary .sub (.number (.ofDigit '1' (by decide)))
      (Builtin.not.word.renders_called all)
  have negation := query_not_truth keeps balanced solid room
  have taken : functions.query room ("1-".toList ++ Builtin.not.word.called [argument]) =
      (fun value => Number.ofNat 1 - value) <$>
        functions.query room (Builtin.not.word.called [argument]) := by
    rw [query_eq_within keeps.find? all, query, map_eq_pure_bind, Query.within_bind]
    refine Query.within_congr fun _ => ?_
    rw [expression, evaluate_succ, read, Formula.evaluate, Formula.evaluate, Formula.evaluate,
      invoke_of_found keeps.find?]
    rfl
  rw [taken, negation, ← comp_map]
  exact congrArg (· <$> _) (funext fun value => Function.one_sub_truth value.isNegligible)

/-- The text of a negation. -/
def negated (argument : Text) : Text :=
  Builtin.not.word.called [argument]

theorem evaluate_negated (keeps : functions.Keeps .not) (balanced : Balanced false argument)
    (solid : argument.strip ≠ []) {calls left : Nat}
    (fits : Nesting.argument + Nesting.call ≤ left) (outer outer' : List Text) :
    Call.evaluate ⟨outer, left, functions.evaluate (calls + 1)⟩ (negated argument) =
      (fun value => Function.truth value.isNegligible) <$>
        Call.evaluate ⟨outer', left - (Nesting.argument + Nesting.call),
          functions.evaluate calls⟩ argument.strip := by
  rw [negated, evaluate_called_argument keeps.find? (List.forall_mem_singleton.mpr balanced),
    Query.within_of_le fits, passed_single solid, map_eq_pure_bind]
  rfl

theorem passed_map_negated (arguments : List Text) :
    Arguments.passed (arguments.map negated) = arguments.map negated := by
  have stripped : (arguments.map negated).map Text.strip = arguments.map negated := by
    rw [List.map_map]
    exact List.map_congr_left fun argument _ => Builtin.not.word.strip_called [argument]
  cases arguments with
  | nil => rfl
  | cons argument arguments =>
      have solid : (negated argument).strip ≠ [] := by
        rw [negated, Letters.strip_called]
        exact Builtin.not.word.called_ne_nil [argument]
      rw [Arguments.passed_of_mem (List.mem_map_of_mem List.mem_cons_self) solid, stripped]

/-- The negation of a conjunction is the disjunction of the negations.  An empty conjunction
is a call inside a call nevertheless, and takes as much room. -/
theorem query_not_and {arguments : List Text} {room : Nat}
    (keepsNot : functions.Keeps .not) (keepsAnd : functions.Keeps .and)
    (keepsOr : functions.Keeps .or)
    (balanced : ∀ argument ∈ arguments, Balanced false argument)
    (solid : ∀ argument ∈ arguments, argument.strip ≠ [])
    (enough : arguments = [] →
      Nesting.formula + Nesting.call + (Nesting.argument + Nesting.call) ≤ room) :
    functions.query room (negated (Builtin.and.word.called arguments)) =
      functions.query room (Builtin.or.word.called (arguments.map negated)) := by
  have conjunction : ∀ argument ∈ [Builtin.and.word.called arguments], Balanced false argument :=
    List.forall_mem_singleton.mpr (Builtin.and.word.balanced_called balanced)
  have negations : ∀ argument ∈ arguments.map negated, Balanced false argument := by
    intro argument member
    obtain ⟨original, given, rfl⟩ := List.mem_map.mp member
    exact Builtin.not.word.balanced_called (List.forall_mem_singleton.mpr (balanced _ given))
  have whole : Arguments.passed [Builtin.and.word.called arguments] =
      [Builtin.and.word.called arguments] := by
    have stripped := Builtin.and.word.strip_called arguments
    rw [passed_single (stripped.symm ▸ Builtin.and.word.called_ne_nil arguments), stripped]
  have each : Arguments.passed arguments = arguments.map Text.strip := by
    cases arguments with
    | nil => rfl
    | cons argument arguments =>
        exact Arguments.passed_of_mem List.mem_cons_self (solid argument List.mem_cons_self)
  rw [negated, query_eq_within keepsNot.find? conjunction, whole,
    query_eq_within keepsOr.find? negations, passed_map_negated]
  refine Query.within_congr fun opened => Query.within_congr fun inside => ?_
  obtain ⟨calls, same⟩ : ∃ calls, room - Nesting.formula = calls + 1 :=
    Nat.exists_eq_add_one.mpr (Nat.lt_of_lt_of_le (by decide) inside)
  rw [same]
  change (Call.evaluate ⟨_, calls + 1 - Nesting.call, functions.evaluate (calls + 1)⟩
    (Builtin.and.word.called arguments) >>= fun value =>
      pure (Function.truth value.isNegligible)) = Function.decideBy ⟨arguments.map negated,
        calls + 1 - Nesting.call, functions.evaluate (calls + 1)⟩ Number.isSignificant true
          (arguments.map negated)
  rw [evaluate_called_argument keepsAnd.find? balanced, each]
  rcases Nat.lt_or_ge (calls + 1 - Nesting.call) (Nesting.argument + Nesting.call) with full | fits
  · -- there is no room for a call in the call, on either side
    cases arguments with
    | nil =>
        have := enough rfl
        omega
    | cons argument arguments =>
        have fails : Call.evaluate ⟨(argument :: arguments).map negated, calls + 1 - Nesting.call,
            functions.evaluate (calls + 1)⟩ (negated argument) = .fail .tooDeep := by
          rw [negated, evaluate_called_argument keepsNot.find?
            (List.forall_mem_singleton.mpr (balanced argument List.mem_cons_self)),
            Query.within_of_lt full]
        rw [Query.within_of_lt full, Query.bind_fail]
        exact (Function.decideBy_of_fail fails).symm
  · rw [Query.within_of_le fits, ← map_eq_pure_bind]
    exact (Function.decideBy_negated fun text given => evaluate_negated keepsNot
      (balanced text given) (solid text given) fits _ (arguments.map Text.strip)).symm

/-- The four functions of logic evaluate an argument alike.  `IF` and `OR` take its value for
true if it is above the bound, `AND` and `NOT` if it is not below it.  This makes a difference
for NaN and on the bound, and for no other number.  The law of De Morgan holds for all
arguments. -/
theorem truth_agreement (functions : Registry)
    (keeps : ∀ builtin ∈ [Builtin.ifThen, .and, .or, .not], functions.Keeps builtin)
    (room : Nat) :
    (∀ argument, Balanced false argument → argument.strip ≠ [] →
      let value := functions.argumentValue room argument
      functions.query room (Builtin.ifThen.word.called [argument, "1".toList, "0".toList]) =
          (fun value => Function.truth value.isSignificant) <$> value ∧
        functions.query room (Builtin.or.word.called [argument]) =
          (fun value => Function.truth value.isSignificant) <$> value ∧
        functions.query room (Builtin.and.word.called [argument]) =
          (fun value => Function.truth !value.isNegligible) <$> value ∧
        functions.query room ("1-".toList ++ Builtin.not.word.called [argument]) =
          (fun value => Function.truth !value.isNegligible) <$> value) ∧
    (∀ value : Number,
      Function.truth value.isSignificant = Function.truth (!value.isNegligible) ↔
        value ≠ .nan ∧ value.abs ≠ .epsilon) ∧
    ∀ arguments : List Text,
      (∀ argument ∈ arguments, Balanced false argument ∧ argument.strip ≠ []) →
      (arguments = [] →
        Nesting.formula + Nesting.call + (Nesting.argument + Nesting.call) ≤ room) →
      functions.query room (Builtin.not.word.called [Builtin.and.word.called arguments]) =
        functions.query room (Builtin.or.word.called
          (arguments.map fun argument => Builtin.not.word.called [argument])) := by
  simp only [List.forall_mem_cons] at keeps
  obtain ⟨keepsIf, keepsAnd, keepsOr, keepsNot, -⟩ := keeps
  refine ⟨fun argument balanced solid => ⟨?_, ?_, ?_, ?_⟩, fun value => ?_, ?_⟩
  · exact query_ifThen_truth keepsIf balanced room
  · exact query_or_truth keepsOr balanced solid room
  · exact query_and_truth keepsAnd balanced solid room
  · exact query_one_sub_not keepsNot balanced solid room
  · rw [Function.truth_injective, Number.isSignificant_eq_iff]
  · intro arguments each enough
    exact query_not_and keepsNot keepsAnd keepsOr (fun argument given => (each argument given).1)
      (fun argument given => (each argument given).2) enough

/-- A cell with a number on the bound: the choice takes it for false and the conjunction for
true. -/
theorem truth_agreement_bound :
    let answers (_ : Text) : CellValue := .number .epsilon
    (builtins.query 50 "IF(A1,1,0)".toList).outcome answers = .ok (Function.truth false) ∧
      (builtins.query 50 "AND(A1)".toList).outcome answers = .ok (Function.truth true) ∧
      builtins.query 50 "NOT(AND(A1,B1))".toList =
        builtins.query 50 "OR(NOT(A1),NOT(B1))".toList := by
  intro answers
  obtain ⟨tests, -, deMorgan⟩ :=
    truth_agreement builtins (fun builtin _ => builtins_keeps builtin) 50
  obtain ⟨choice, -, conjunction, -⟩ :=
    tests "A1".toList (by decide) (by decide +kernel)
  have value : (builtins.argumentValue 50 "A1".toList).outcome answers = .ok .epsilon := rfl
  refine ⟨?_, ?_, ?_⟩
  · have ends := congrArg (Query.outcome answers) choice
    rw [Query.outcome_map, value] at ends
    exact ends.trans (congrArg Except.ok (by decide +kernel))
  · have ends := congrArg (Query.outcome answers) conjunction
    rw [Query.outcome_map, value] at ends
    exact ends.trans (congrArg Except.ok (by decide +kernel))
  · refine deMorgan ["A1".toList, "B1".toList] ?_ nofun
    simp only [List.forall_mem_cons]
    exact ⟨⟨by decide, by decide +kernel⟩, ⟨by decide, by decide +kernel⟩, nofun⟩

end Registry

end Spreadsheet
