import Spreadsheet.Proofs.Function.Room
import Spreadsheet.Proofs.Function.Spelled
import Spreadsheet.Proofs.Number.Threshold
import Spreadsheet.Proofs.Query.Leading

/-!
# Averages

An average is a sum over a count.  The three functions go through the same arguments, and not in
the same way: a sum and an average end with the first item that is an error code, and a count
passes over it or even counts it.  Where the sum has a value there is no such item, and then the
count is the number of items that have been added up.  There is at least one, so the count is
never taken for zero.
-/

namespace Spreadsheet

namespace Call

variable {α β : Type} {answers : Text → CellValue} {related : Nat → α → β → Prop}
  {step : α → CellValue → Query α} {step' : β → CellValue → Query β}

/-- Going through the items of an argument with states that are related.  There is at least one
item. -/
theorem foldItems_leads
    (weaken : ∀ {less more state state'}, less ≤ more → related more state state' →
      related less state state')
    (leads : ∀ item {done state state'}, related done state state' →
      Query.Leads answers (related (done + 1)) (step state item) (step' state' item))
    (call : Call) (argument : Text) {done : Nat} {state : α} {state' : β}
    (start : related done state state') :
    Query.Leads answers (related (done + 1)) (call.foldItems step state argument)
      (call.foldItems step' state' argument) := by
  rw [foldItems, foldItems, within, within]
  refine Query.leads_within fun left => ?_
  cases argument.isEmpty with
  | true => exact Query.leads_fail _ _
  | false =>
      simp only [Bool.false_eq_true, if_false]
      refine Query.leads_bind _ fun range => ?_
      cases range with
      | none => exact Query.leads_bind _ fun item => leads item start
      | some range =>
          simp only [Range.foldCells_eq_foldlM]
          refine (Query.Leads.foldlM (fun name _ _ _ same => ?_) start).mono
            (weaken (Nat.add_le_add_left range.length_names_pos done))
          exact Query.leads_bind _ fun item => leads item same

/-- An argument with a row number that cannot be read has no items. -/
theorem exists_foldItems_eq_fail {argument : Text} {fault : AddressError}
    (unreadable : Range.ofText? argument = .error fault) (call : Call) (state : α) :
    ∃ failure, call.foldItems step state argument = .fail failure := by
  rw [foldItems, within, Query.within]
  split
  · cases argument with
    | nil => exact ⟨_, rfl⟩
    | cons c argument =>
        rw [range?, unreadable]
        exact ⟨_, rfl⟩
  · exact ⟨_, rfl⟩

/-- A change of the state that every step carries through is carried through the numbers of an
argument, -/
theorem foldNumbers_change (change : α → β) {step : α → Number → α} {step' : β → Number → β}
    (carries : ∀ state value, step' (change state) value = change (step state value))
    (call : Call) (state : α) (argument : Text) :
    call.foldNumbers step' (change state) argument =
      change <$> call.foldNumbers step state argument := by
  rw [foldNumbers, foldNumbers, within, within, Query.within_map]
  refine Query.within_congr fun _ => foldItems_change change (fun state item => ?_) _ argument state
  rw [Functor.map_map]
  exact congrArg (· <$> Query.number item) (funext (carries state))

/-- and of all arguments. -/
theorem foldAll_change (change : α → β) {step : α → Number → α} {step' : β → Number → β}
    (carries : ∀ state value, step' (change state) value = change (step state value))
    (call : Call) (state : α) :
    call.foldAll step' (change state) = change <$> call.foldAll step state :=
  Query.foldlM_change change (foldNumbers_change change carries call) call.arguments state

end Call

namespace Function

variable {answers : Text → CellValue} {call : Call}

/-- One more number, with those that have been added up and how many there are. -/
def add (state : Number × Nat) (value : Number) : Number × Nat :=
  (state.1 + value, state.2 + 1)

/-- The sum of all numbers, and how many there are. -/
def collect (call : Call) : Query (Number × Nat) :=
  call.foldAll add (.zero false, 0)

/-- A sum over how many numbers there are. -/
def mean (state : Number × Nat) : Number :=
  if state.2 = 0 then .zero false else state.1 / .ofNat state.2

theorem average_eq_map (call : Call) : average call = mean <$> collect call := by
  rw [map_eq_pure_bind]
  rfl

theorem sum_eq_map (call : Call) : sum call = Prod.fst <$> collect call :=
  @Call.foldAll_change _ _ Prod.fst add (· + ·) (fun _ _ => rfl) call (.zero false, 0)

/-- So many numbers have been counted, and no fewer than some. -/
def Agrees (least : Nat) (state : Number × Nat) (total : Nat) : Prop :=
  state.2 = total ∧ least ≤ total

/-- Where all items of an argument are numbers, all of them count, -/
theorem leads_foldItems (argument : Text) {least total : Nat} {state : Number × Nat}
    (start : Agrees least state total) :
    Query.Leads answers (Agrees (least + 1))
      (call.foldItems (fun state item => add state <$> Query.number item) state argument)
      (tally call total argument) := by
  rw [tally, Call.range?]
  cases written : Range.ofText? argument with
  | error fault =>
      obtain ⟨failure, fails⟩ := Call.exists_foldItems_eq_fail written call state
      rw [fails]
      exact Query.leads_fail _ _
  | ok range =>
      refine Call.foldItems_leads (fun fewer agrees => ⟨agrees.1, Nat.le_trans fewer agrees.2⟩)
        (fun item _ _ _ agrees => ?_) call argument start
      cases item with
      | number value =>
          exact Query.leads_done ⟨congrArg (· + 1) agrees.1, Nat.succ_le_succ agrees.2⟩
      | error code => exact Query.leads_fail _ _

/-- also where the numbers are taken out of the items in less room. -/
theorem leads_tally (growing : Call.Alike Texts.growing 0 call call) (argument : Text)
    {least total : Nat} {state : Number × Nat} (start : Agrees least state total) :
    Query.Leads answers (Agrees (least + 1)) (call.foldNumbers add state argument)
      (tally call total argument) := by
  rw [Call.foldNumbers, Call.within, Query.within]
  split
  · let inner : Call := { call with room := call.room - Nesting.numbers }
    have cut : Query.Alike .truncation (tally inner total argument)
        (tally call total argument) := by
      have alike : Call.Alike Texts.growing 0 inner call := growing.withRoom _ _
      refine (@Call.range?_alike _ _ Texts.growing _ _ ⟨rfl, trivial⟩).bind fun range => ?_
      exact alike.foldItems (Nat.sub_le _ _) (fun _ _ => .done _) ⟨rfl, trivial⟩ total
    intro result ends
    obtain ⟨total', ends', agrees⟩ := leads_foldItems argument start result ends
    exact ⟨total', cut.outcome_of_ok ends', agrees⟩
  · exact Query.leads_fail _ _

/-- Where there is a sum, it is one of as many numbers as are counted. -/
theorem leads_count (growing : Call.Alike Texts.growing 0 call call) :
    Query.Leads answers (Agrees call.arguments.length) (collect call)
      (call.arguments.foldlM (tally call) 0) := by
  rw [← Nat.zero_add call.arguments.length]
  exact Query.Leads.foldlM (fun argument _ _ _ => leads_tally growing argument)
    ⟨rfl, Nat.le_refl 0⟩

theorem div_apply_ofNat {n : Nat} (positive : 0 < n) (total : Number) :
    Operator.div.apply total (.ofNat n) = .done (total / .ofNat n) := by
  rw [Operator.apply, Number.isNegligible_ofNat positive, if_neg Bool.false_ne_true]

/-- An average ends as the quotient of a sum and a count does. -/
theorem outcome_average (growing : Call.Alike Texts.growing 0 call call)
    (nonempty : call.arguments ≠ []) :
    (average call).outcome answers =
      (sum call >>= fun total => count call >>= Operator.div.apply total).outcome answers := by
  have counts : count call = Number.ofNat <$> call.arguments.foldlM (tally call) 0 :=
    count_eq_map call call.arguments
  have sums := Query.outcome_map answers Prod.fst (collect call)
  rw [average_eq_map, Query.outcome_map]
  rw [← sum_eq_map] at sums
  cases collected : (collect call).outcome answers with
  | error failure =>
      rw [collected] at sums
      rw [Query.outcome_bind_of_error sums]
      rfl
  | ok state =>
      obtain ⟨total, tallied, same, several⟩ := leads_count growing state collected
      have positive : 0 < total := Nat.lt_of_lt_of_le (List.length_pos_of_ne_nil nonempty) several
      have counted : (count call).outcome answers = .ok (.ofNat total) := by
        rw [counts, Query.outcome_map, tallied]
        rfl
      rw [collected] at sums
      rw [Query.outcome_bind_of_ok sums, Query.outcome_bind_of_ok counted,
        div_apply_ofNat positive]
      change Except.ok (mean state) = _
      rw [mean, same, if_neg (Nat.ne_of_gt positive)]
      rfl

end Function

namespace Registry

variable {functions : Registry} {arguments : List Text}

theorem Pure.call_growing (pure : functions.Pure) (arguments : List Text) (room calls : Nat) :
    Call.Alike Texts.growing 0 ⟨arguments, room, functions.evaluate calls⟩
      ⟨arguments, room, functions.evaluate calls⟩ where
  arguments := List.forall₂_same.mpr fun _ _ => ⟨rfl, trivial⟩
  expression := by
    rintro room room' text _ ⟨rfl, -⟩ less
    exact evaluate_truncation pure (Nat.le_refl calls) less text

/-- Two calls with the same arguments and an operation between them are evaluated one after the
other, in the same room. -/
theorem query_binary (operator : Operator) {function function' : Letters}
    {body body' : FunctionBody}
    (found : functions.find? (Text.upper function.text) = some body)
    (found' : functions.find? (Text.upper function'.text) = some body')
    (balanced : ∀ argument ∈ arguments, Balanced false argument) (room : Nat) :
    functions.query room
        (function.called arguments ++ operator.char :: function'.called arguments) =
      Query.within Nesting.formula room fun rest => Query.within Nesting.call rest fun left =>
        let call : Call := ⟨Arguments.passed arguments, left, functions.evaluate rest⟩
        body call >>= fun first => body' call >>= operator.apply first := by
  rw [query]
  refine Query.within_congr fun _ => ?_
  rw [expression, evaluate_succ, Formula.ofText_binary operator
    (function.renders_called balanced) (function'.renders_called balanced)]
  simp only [Expression.formula, Formula.evaluate, invoke_of_found found, invoke_of_found found']
  rw [Query.within_bind]
  refine Query.within_congr fun fits => congrArg _ (funext fun first => ?_)
  rw [Query.within_of_le fits]

/-- An average is the sum over the count, whatever the arguments are, blank ones and ones that
cannot be read among them, if only they are not all one gap.  Whoever answers by the name alone,
both end with the same number, to the bit, or with the same failure, so that a cell has the same
value from the one and from the other. -/
theorem average_eq_sum_div_count (pure : functions.Pure) (sums : functions.Keeps .sum)
    (averages : functions.Keeps .average) (counts : functions.Keeps .count) {inside : Text}
    (balanced : Balanced true inside) (solid : inside.all Text.isGap = false)
    (answers : Text → CellValue) (room : Nat) :
    let called (builtin : Builtin) : Text := builtin.name ++ '(' :: (inside ++ [')'])
    (functions.query room (called .average)).outcome answers =
      (functions.query room (called .sum ++ '/' :: called .count)).outcome answers := by
  intro called
  obtain ⟨argument, arguments, single, rfl⟩ := Arguments.exists_text_eq balanced
  have nonempty : Arguments.passed (argument :: arguments) ≠ [] := by
    rw [Arguments.passed_eq_map]
    · exact List.cons_ne_nil _ _
    · intro lone same
      rwa [same] at solid
  have average := query_eq_within averages.find? single room
  have quotient := query_binary .div sums.find? counts.find? single room
  refine (congrArg (Query.outcome answers) average).trans
    (Eq.trans ?_ (congrArg (Query.outcome answers) quotient).symm)
  refine Query.outcome_within_congr fun _ => Query.outcome_within_congr fun _ => ?_
  exact Function.outcome_average (pure.call_growing _ _ _) nonempty

/-- The average of a range and a nested call is their sum over their count.  With a cell in a
cycle both fail with its error code, though the count alone has a value. -/
theorem average_eq_sum_div_count_nested :
    let inside := "A1:B1,MAX(C1,2)".toList
    let cyclic (name : Text) : CellValue :=
      if name = "B1".toList then .error .cycle else .number (.ofNat 4)
    (∀ (answers : Text → CellValue) (room : Nat),
      (builtins.query room ("AVERAGE(".toList ++ inside ++ [')'])).outcome answers =
        (builtins.query room ("SUM(".toList ++ inside ++ ")/COUNT(".toList ++ inside ++
          [')'])).outcome answers) ∧
    (builtins.query 60 ("AVERAGE(".toList ++ inside ++ [')'])).outcome
      (fun _ => .number (.ofNat 4)) = .ok (.ofNat 4) ∧
    (builtins.query 60 ("AVERAGE(".toList ++ inside ++ [')'])).outcome cyclic =
      .error (.error (.answered .cycle)) ∧
    (builtins.query 60 ("COUNT(".toList ++ inside ++ [')'])).outcome cyclic = .ok (.ofNat 3) := by
  intro inside cyclic
  have balanced : Balanced true "A1:B1,MAX(C1,2)".toList := by decide
  refine ⟨fun answers room => ?_, ?_, ?_, ?_⟩
  · exact average_eq_sum_div_count builtins_pure (builtins_keeps .sum) (builtins_keeps .average)
      (builtins_keeps .count) balanced (by decide) answers room
  · decide +kernel
  · decide +kernel
  · decide +kernel

end Registry

end Spreadsheet
