import Spreadsheet.Proofs.Function.Average
import Spreadsheet.Proofs.Function.Called
import Spreadsheet.Proofs.Number.Order
import Spreadsheet.Proofs.Query.Wording

/-!
# Minimum and maximum in any order

Where all arguments have numbers, and have the same ones whenever they are asked for, the
smallest and the largest of them are shown the same in whatever order the arguments stand.  That
is so with ranges, infinities and zeros of both signs, and with a NaN, too, unless the NaN is the
very first number: it is an error then, while anywhere else it is passed over.
-/

namespace Spreadsheet

variable {ε σ : Type} {resolver : Nat → Text → ExceptT ε (StateM σ) CellValue}

namespace Call

variable {β : Type}

/-- Going through numbers does not depend on the arguments of the call, and on no more of its
evaluations than there is room for. -/
theorem foldNumbers_congr {expression expression' : Nat → Text → Query Number} {room : Nat}
    (same : ∀ rest ≤ room, expression rest = expression' rest) (arguments arguments' : List Text)
    (step : β → Number → β) (state : β) (argument : Text) :
    foldNumbers ⟨arguments, room, expression⟩ step state argument =
      foldNumbers ⟨arguments', room, expression'⟩ step state argument := by
  rw [foldNumbers, foldNumbers, within, within]
  refine Query.within_congr fun _ => ?_
  rw [foldItems, foldItems, within, within]
  refine Query.within_congr fun _ => ?_
  have evaluated (left : Nat) (less : left ≤ room) :
      evaluate ⟨arguments, left, expression⟩ argument =
        evaluate ⟨arguments', left, expression'⟩ argument := by
    rw [evaluate, evaluate, within, within]
    refine Query.within_congr fun _ => ?_
    exact congrFun (same _ (Nat.le_trans (Nat.sub_le _ _) less)) argument
  simp only [evaluated _ (Nat.le_trans (Nat.sub_le _ _) (Nat.sub_le _ _))]

end Call

/-- A choice among numbers is made from the list of all of them. -/
theorem Function.extreme_eq_map (choose : Number → Number → Number) (call : Call) :
    extreme choose call =
      (fun values => (Number.chosen choose values.reverse).getD (.zero false)) <$>
        call.within Nesting.collection fun inner =>
          inner.foldAll (fun values value => value :: values) [] := by
  rw [extreme, Call.within, Call.within, Query.within_bind, Query.within_map]
  refine Query.within_congr fun _ => ?_
  refine (congrArg (· >>= fun best => pure (best.getD (.zero false)))
    (@Call.foldAll_change _ _ (fun values => Number.chosen choose values.reverse)
      (fun values value => value :: values) _ (fun values value => ?_) _ [])).trans ?_
  · rw [List.reverse_cons, Number.chosen_concat]
    cases Number.chosen choose values.reverse with
    | none => rfl
    | some earlier => rfl
  · rw [map_eq_pure_bind, map_eq_pure_bind, bind_assoc]
    rfl

namespace Registry

variable {functions : Registry} {room : Nat} {arguments : List Text}
  {numbers : Text → List Number}

/-- The numbers of an argument before others, the last one first. -/
def gather (functions : Registry) (room : Nat) :
    (before : List Number) → (argument : Text) → Query (List Number) :=
  (functions.bareCall room).foldNumbers fun values value => value :: values

/-- The numbers of an argument, in order. -/
def values (functions : Registry) (room : Nat) (argument : Text) : Query (List Number) :=
  List.reverse <$> functions.gather room [] argument

/-- What a cell with the text as its formula displays. -/
def displayed (functions : Registry) (room : Nat)
    (resolver : Nat → Text → ExceptT ε (StateM σ) CellValue) (state : σ) (text : Text) :
    Except ε (Except Escape Text) :=
  ((functions.query room text).hold resolver state).1.map fun ending =>
    (CellValue.ofOutcome ending).map CellValue.display

theorem solid_of_values {argument : Text} {state : σ} {result : List Number}
    (resolves : ((functions.values room argument).hold resolver state).1 = .ok (.ok result)) :
    argument ≠ [] := by
  rintro rfl
  rw [values, gather, Call.foldNumbers, Call.within, Query.within] at resolves
  split at resolves
  · rw [Call.foldItems, Call.within, Query.within] at resolves
    split at resolves
    · cases resolves
    · cases resolves
  · cases resolves

theorem gather_eq_map (functions : Registry) (room : Nat) (before : List Number)
    (argument : Text) :
    functions.gather room before argument = (· ++ before) <$> functions.gather room [] argument :=
  Call.foldNumbers_change (· ++ before) (fun _ _ => (List.cons_append).symm) _ [] argument

/-- An argument that has numbers in every state has them behind others, too. -/
theorem hold_gather {argument : Text} {result : List Number}
    (resolves : ∀ state,
      ((functions.values room argument).hold resolver state).1 = .ok (.ok result))
    (before : List Number) (state : σ) :
    ∃ after, (functions.gather room before argument).hold resolver state =
      (.ok (.ok (result.reverse ++ before)), after) := by
  have own := resolves state
  rw [values, Query.hold_map] at own
  rw [gather_eq_map, Query.hold_map]
  generalize (functions.gather room [] argument).hold resolver state = held at own ⊢
  rcases held with ⟨escape | failure | found, after⟩
  · cases own
  · cases own
  · obtain rfl : found.reverse = result := Except.ok.inj (Except.ok.inj own)
    refine ⟨after, ?_⟩
    rw [List.reverse_reverse]
    rfl

/-- Where each argument has numbers, these are the numbers of all arguments. -/
theorem hold_foldlM_gather
    (resolves : ∀ argument ∈ arguments, ∀ state,
      ((functions.values room argument.strip).hold resolver state).1 =
        .ok (.ok (numbers argument)))
    (before : List Number) (state : σ) :
    (((arguments.map Text.strip).foldlM (functions.gather room) before).hold resolver state).1 =
      .ok (.ok ((arguments.flatMap numbers).reverse ++ before)) := by
  induction arguments generalizing before state with
  | nil => rfl
  | cons argument arguments inductionHypothesis =>
      obtain ⟨first, rest⟩ := List.forall_mem_cons.mp resolves
      obtain ⟨after, gathered⟩ := hold_gather first before state
      rw [List.map_cons, List.foldlM_cons, Query.hold_bind, gathered, inductionHypothesis rest,
        List.flatMap_cons, List.reverse_append, List.append_assoc]

/-- The call of a function that chooses one number chooses from all numbers. -/
theorem query_extreme {choose : Number → Number → Number} {function : Letters}
    (pure : functions.Pure)
    (found : functions.find? (Text.upper function.text) = some (Function.extreme choose))
    (balanced : ∀ argument ∈ arguments, Balanced false argument)
    (solid : ∀ argument ∈ arguments, argument.strip ≠ []) (room : Nat) :
    functions.query (room + Nesting.collection + Nesting.call + Nesting.formula)
        (function.called arguments) =
      (fun values => (Number.chosen choose values.reverse).getD (.zero false)) <$>
        (arguments.map Text.strip).foldlM (functions.gather room) [] := by
  have passed : Arguments.passed arguments = arguments.map Text.strip := by
    refine Arguments.passed_eq_map fun argument single => Bool.eq_false_iff.mpr fun blank => ?_
    exact solid argument (single ▸ List.mem_singleton_self argument) (Text.strip_of_isGap blank)
  have agree : ∀ rest ≤ room, functions.evaluate (room + Nesting.collection + Nesting.call) rest =
      functions.expression rest := by
    intro rest le
    funext text
    exact evaluate_eq_expression pure (by rw [Nesting.call]; omega) text
  rw [query_called found balanced (by omega), passed, Nat.add_sub_cancel, Nat.add_sub_cancel,
    Function.extreme_eq_map, Call.within, Query.within_of_le (Nat.le_add_left _ _),
    Nat.add_sub_cancel]
  refine congrArg _ (congrArg (List.foldlM · [] _) ?_)
  funext before argument
  exact Call.foldNumbers_congr agree _ _ _ before argument

theorem displayed_extreme {choose : Number → Number → Number} {function : Letters}
    (pure : functions.Pure)
    (found : functions.find? (Text.upper function.text) = some (Function.extreme choose))
    (balanced : ∀ argument ∈ arguments, Balanced false argument)
    (resolves : ∀ argument ∈ arguments, ∀ state,
      ((functions.values room argument.strip).hold resolver state).1 =
        .ok (.ok (numbers argument))) (state : σ) :
    functions.displayed (room + Nesting.collection + Nesting.call + Nesting.formula) resolver state
        (function.called arguments) =
      .ok ((CellValue.ofOutcome
        (.ok ((Number.chosen choose (arguments.flatMap numbers)).getD (.zero false)))).map
          CellValue.display) := by
  have solid : ∀ argument ∈ arguments, argument.strip ≠ [] := fun argument member =>
    solid_of_values (resolves argument member state)
  rw [displayed, query_extreme pure found balanced solid, Query.hold_map,
    hold_foldlM_gather resolves [] state, List.append_nil]
  simp only [Except.map, List.reverse_reverse]

theorem display_zero (negative : Bool) :
    (CellValue.ofOutcome (.ok (.zero negative))).map CellValue.display = .ok ['0'] := by
  cases negative <;> decide +kernel

/-- The functions that choose one number, by a rank that tells all places apart. -/
theorem exists_chooses {builtin : Builtin} (extreme : builtin = .min ∨ builtin = .max) :
    ∃ choose rank, builtin.body = Function.extreme choose ∧ Number.Chooses rank choose ∧
      ∀ x y : Number, rank x = rank y → x.place = y.place := by
  rcases extreme with rfl | rfl
  · exact ⟨_, _, rfl, Number.chooses_earlierMin, fun _ _ same => same⟩
  · exact ⟨_, _, rfl, Number.chooses_earlierMax, fun _ _ same => Int.neg_inj.mp same⟩

/-- The smallest and the largest number do not depend on the order of the arguments, whoever
answers, if each argument has numbers, the same ones whenever it is asked for them, and if either
both orders begin with a NaN or none does.  Both are shown as the same text then, which is the one
for `#ERR` where a NaN comes first. -/
theorem displayed_extreme_permuted (pure : functions.Pure) {builtin : Builtin}
    (extreme : builtin = .min ∨ builtin = .max) (keeps : functions.Keeps builtin)
    {permuted : List Text} (order : arguments.Perm permuted)
    (balanced : ∀ argument ∈ arguments, Balanced false argument)
    (resolves : ∀ argument ∈ arguments, ∀ state,
      ((functions.values room argument.strip).hold resolver state).1 =
        .ok (.ok (numbers argument)))
    (led : (arguments.flatMap numbers).head? = some .nan ↔
      (permuted.flatMap numbers).head? = some .nan) (state : σ) :
    let whole := room + Nesting.collection + Nesting.call + Nesting.formula
    ∃ text,
      functions.displayed whole resolver state (builtin.word.called arguments) = .ok (.ok text) ∧
      functions.displayed whole resolver state (builtin.word.called permuted) = .ok (.ok text) ∧
      ((arguments.flatMap numbers).head? = some .nan → text = ErrorCode.err.text) := by
  intro whole
  obtain ⟨choose, rank, body, chooses, separates⟩ := exists_chooses extreme
  have found : functions.find? (Text.upper builtin.word.text) = some (Function.extreme choose) :=
    body ▸ keeps.find?
  refine ⟨_, displayed_extreme pure found balanced resolves state, ?_, fun nan => ?_⟩
  · rw [displayed_extreme pure found
      (fun argument member => balanced argument (order.mem_iff.mpr member))
      (fun argument member => resolves argument (order.mem_iff.mpr member)) state]
    refine congrArg Except.ok ?_
    rcases chooses.chosen_eq_or_zero separates (order.flatMap_right numbers) led with
      same | ⟨negative, negative', zero, zero'⟩
    · rw [same]
      rfl
    · rw [zero', Option.getD_some, display_zero, ← display_zero negative, zero, Option.getD_some]
      rfl
  · obtain ⟨rest, values⟩ := List.head?_eq_some_iff.mp nan
    rw [values, Number.chosen, chooses.foldl_nan]
    rfl

/-- A range of zeros, a NaN behind it and the other zero, in two orders: different zeros are
chosen, and both are shown as the same text. -/
theorem displayed_extreme_permuted_zeros :
    let zeros : Nat → Text → ExceptT Empty (StateM Unit) CellValue :=
      fun _ _ => pure (.number (.zero false))
    builtins.displayed 69 zeros () "MIN(A1:B1,1e999-1e999,-0)".toList = .ok (.ok ['0']) ∧
      builtins.displayed 69 zeros () "MIN(-0,A1:B1,1e999-1e999)".toList = .ok (.ok ['0']) := by
  intro zeros
  let numbers (argument : Text) : List Number :=
    if argument = "A1:B1".toList then [.zero false, .zero false]
    else if argument = "-0".toList then [.zero true]
    else [.nan]
  let arguments : List Text := ["A1:B1".toList, "1e999-1e999".toList, "-0".toList]
  let permuted : List Text := ["-0".toList, "A1:B1".toList, "1e999-1e999".toList]
  have resolves : ∀ argument ∈ arguments, ∀ state,
      ((builtins.values 60 argument.strip).hold zeros state).1 =
        .ok (.ok (numbers argument)) := by
    refine List.forall_mem_cons.mpr ⟨fun () => by decide +kernel, ?_⟩
    refine List.forall_mem_cons.mpr ⟨fun () => by decide +kernel, ?_⟩
    exact List.forall_mem_singleton.mpr fun () => by decide +kernel
  have shown : builtins.displayed 69 zeros () "MIN(A1:B1,1e999-1e999,-0)".toList =
      .ok (.ok ['0']) := by decide +kernel
  obtain ⟨text, first, second, -⟩ := displayed_extreme_permuted builtins_pure (.inl rfl)
    (builtins_keeps .min) (show arguments.Perm permuted by decide) (by decide) resolves
    (by decide +kernel) ()
  obtain rfl : text = ['0'] := Except.ok.inj (Except.ok.inj (first.symm.trans shown))
  exact ⟨shown, second⟩

/-- Where the NaN stands makes a difference: first it is what is chosen, and second it is passed
over, although both arguments have a number each. -/
theorem displayed_extreme_nan :
    let unanswered : Nat → Text → ExceptT Empty (StateM Unit) CellValue :=
      fun _ _ => pure (.error .ref)
    let unknown : Text := "1e999-1e999".toList
    let one : Text := "1".toList
    (∀ state, ((builtins.values 60 unknown.strip).hold unanswered state).1 =
        .ok (.ok [.nan])) ∧
      (∀ state, ((builtins.values 60 one.strip).hold unanswered state).1 =
        .ok (.ok [.ofNat 1])) ∧
      [unknown, one].Perm [one, unknown] ∧
      builtins.displayed 69 unanswered () (Builtin.min.word.called [unknown, one]) =
        .ok (.ok "#ERR".toList) ∧
      builtins.displayed 69 unanswered () (Builtin.min.word.called [one, unknown]) =
        .ok (.ok "1".toList) ∧
      builtins.displayed 69 unanswered () (Builtin.max.word.called [unknown, one]) =
        .ok (.ok "#ERR".toList) ∧
      builtins.displayed 69 unanswered () (Builtin.max.word.called [one, unknown]) =
        .ok (.ok "1".toList) := by
  intro unanswered unknown one
  refine ⟨fun () => ?_, fun () => ?_, .swap _ _ _, ?_, ?_, ?_, ?_⟩ <;> decide +kernel

/-- It makes a difference, too, if the answers change.  Whenever a cell is asked for it has a
number, but another one if something has been asked before. -/
theorem displayed_extreme_stateful :
    let number (name : Text) (asked : Bool) : Number :=
      if name = "A1".toList then .ofNat (if asked then 8 else 5)
      else .ofNat (if asked then 7 else 9)
    let changing (_ : Nat) (name : Text) : ExceptT Empty (StateM Bool) CellValue :=
      ExceptT.mk fun asked => (.ok (.number (number name asked)), true)
    let first : Text := "A1".toList
    let second : Text := "B1".toList
    (∀ argument ∈ [first, second], ∀ asked,
        ((builtins.values 60 argument.strip).hold changing asked).1 =
          .ok (.ok [number argument asked])) ∧
      [first, second].Perm [second, first] ∧
      builtins.displayed 69 changing false (Builtin.min.word.called [first, second]) =
        .ok (.ok "5".toList) ∧
      builtins.displayed 69 changing false (Builtin.min.word.called [second, first]) =
        .ok (.ok "8".toList) ∧
      builtins.displayed 69 changing false (Builtin.max.word.called [first, second]) =
        .ok (.ok "7".toList) ∧
      builtins.displayed 69 changing false (Builtin.max.word.called [second, first]) =
        .ok (.ok "9".toList) := by
  intro number changing first second
  refine ⟨?_, .swap _ _ _, ?_, ?_, ?_, ?_⟩ <;> decide +kernel

end Registry

end Spreadsheet
