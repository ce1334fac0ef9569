import Spreadsheet.Proofs.Function.Called
import Spreadsheet.Proofs.Function.Visit
import Spreadsheet.Proofs.Number.Exact
import Spreadsheet.Proofs.Query.Naming

/-!
# Ranges and the references that they stand for

A range among the arguments of a function may be spelled out: in its place one writes
references to its cells, row by row, with commas between them.  The functions of numbers
then ask for the same names in the same order and end alike.  A count may differ, since
a cell in a cycle counts in a range and does not count alone, and it differs by as many as
there are such cells.
-/

namespace Spreadsheet

/-! ## Names as arguments -/

/-- The text is letters with digits behind them, as the name of a cell is. -/
def Text.NamesCell (name : Text) : Prop :=
  ∃ (column : Letters) (row : Digits), name = column.text ++ row.text

theorem Range.namesCell_of_mem {range : Range} {name : Text} (member : name ∈ range.names) :
    name.NamesCell := by
  obtain ⟨⟨row, column⟩, -, rfl⟩ := List.mem_map.mp member
  exact ⟨⟨Column.letters column, Column.letters_ne_nil column, Column.all_isLetter_letters column⟩,
    ⟨Text.ofNat (row + 1), Text.ofNat_ne_nil _, Text.all_isDigit_ofNat _⟩, rfl⟩

namespace Text.NamesCell

variable {name : Text} (named : name.NamesCell)

include named

theorem isLetter_or_isDigit : ∀ c ∈ name, isLetter c = true ∨ isDigit c = true := by
  obtain ⟨column, row, rfl⟩ := named
  intro c member
  rcases List.mem_append.mp member with letter | digit
  · exact .inl (List.all_eq_true.mp column.all c letter)
  · exact .inr (List.all_eq_true.mp row.all c digit)

theorem ne_nil : name ≠ [] := by
  obtain ⟨column, row, rfl⟩ := named
  exact fun none => column.nonempty (List.append_eq_nil_iff.mp none).1

/-- Read as an expression, it is a reference. -/
theorem formula_eq : Formula.ofText name = .reference name := by
  obtain ⟨column, row, rfl⟩ := named
  exact Formula.ofText_of_writes (Expression.writes_of_renders (.reference column row))

/-- Tried as a range, it is none. -/
theorem range_eq : Range.ofText? name = .ok none := by
  have uncut : ':' ∉ name := fun member =>
    absurd (named.isLetter_or_isDigit _ member) (by decide)
  cases parts : splitFirst ':' name with
  | none => rw [Range.ofText?, parts]
  | some sides =>
      obtain ⟨left, right⟩ := sides
      rw [splitFirst_eq parts] at uncut
      exact absurd (List.mem_append_right left List.mem_cons_self) uncut

theorem strip_eq : name.strip = name :=
  Text.strip_eq_self fun c member => Text.isBlank_eq_false (named.isLetter_or_isDigit c member)

theorem balanced : Balanced false name := by
  refine balanced_of_all_isPlain (List.all_eq_true.mpr fun c member => ?_)
  rcases named.isLetter_or_isDigit c member with letter | digit
  · exact isPlain_of_isLetter letter
  · exact isPlain_of_isDigit digit

end Text.NamesCell

/-! ## One argument -/

theorem Query.caught_number (value : CellValue) : (number value).caught = .done value := by
  cases value <;> rfl

namespace Call

variable {β : Type} {functions : Registry} {call : Call} {calls : Nat} {name argument : Text}
  {range : Range}

/-- Evaluated as an expression, a name is asked for, and the answer is the item. -/
theorem caught_evaluate_of_name (given : call.expression = functions.evaluate (calls + 1))
    (named : name.NamesCell)
    (enough : Nesting.argument + Nesting.reference + Nesting.lookup ≤ call.room) :
    (call.evaluate name).caught =
      .ask (call.room - Nesting.argument - Nesting.reference - Nesting.lookup) name .done := by
  rw [evaluate, within, Query.within_of_le (by omega)]
  dsimp only
  rw [given, Registry.evaluate_succ, named.formula_eq, Formula.evaluate,
    Query.within_of_le (by omega), Query.request_of_le (by omega), Query.bind_ask]
  simp only [Query.caught, Query.bind_done, Query.caught_number]

/-- The room that going through the items of a name takes. -/
def nameShare : Nat :=
  Nesting.items + Nesting.argument + Nesting.reference + Nesting.lookup

theorem foldItems_of_name (given : call.expression = functions.evaluate (calls + 1))
    (named : name.NamesCell) (enough : nameShare ≤ call.room) (step : β → CellValue → Query β)
    (state : β) :
    call.foldItems step state name = .ask (call.room - nameShare) name (step state) := by
  rw [nameShare] at enough
  have blank : name.isEmpty = false := by
    cases name with
    | nil => exact absurd rfl named.ne_nil
    | cons c name => rfl
  let inner : Call := { call with room := call.room - Nesting.items }
  have same : inner.expression = functions.evaluate (calls + 1) := given
  have room : Nesting.argument + Nesting.reference + Nesting.lookup ≤ inner.room := by
    dsimp only [inner]
    omega
  have item : (inner.evaluate name).caught = .ask (call.room - nameShare) name .done := by
    rw [caught_evaluate_of_name same named room]
    simp only [inner, nameShare, Nat.sub_sub, Nat.add_assoc]
  rw [foldItems, within, Query.within_of_le (by omega)]
  simp only [blank, Bool.false_eq_true, if_false, range?, named.range_eq, Query.bind_done,
    Query.bind_ask, item, inner]

/-- The items of a range are folded in as its names would be, only in another room. -/
theorem foldItems_spelled (given : call.expression = functions.evaluate (calls + 1))
    (written : Range.ofText? argument = .ok (some range)) (enough : nameShare ≤ call.room)
    (step : β → CellValue → Query β) (state : β) :
    Query.Alike .naming (call.foldItems step state argument)
      (range.names.foldlM (call.foldItems step) state) := by
  rw [nameShare] at enough
  rw [foldItems_of_range written, Query.within_of_le (by omega)]
  have names : List.Forall₂ (fun name name' => name = name' ∧ name.NamesCell)
      range.names range.names :=
    List.forall₂_same.mpr fun name member => ⟨rfl, Range.namesCell_of_mem member⟩
  refine Query.Alike.foldlM _ (fun state name name' same => ?_) names state
  obtain ⟨rfl, named⟩ := same
  rw [foldItems_of_name given named enough, Query.request_of_le (by omega), Query.bind_ask]
  exact .ask rfl fun answer => Query.alike_naming _

theorem foldNumbers_spelled (given : call.expression = functions.evaluate (calls + 1))
    (written : Range.ofText? argument = .ok (some range))
    (enough : Nesting.numbers + nameShare ≤ call.room) (step : β → Number → β) (state : β) :
    Query.Alike .naming (call.foldNumbers step state argument)
      (range.names.foldlM (call.foldNumbers step) state) := by
  let inner : Call := { call with room := call.room - Nesting.numbers }
  have same : inner.expression = functions.evaluate (calls + 1) := given
  have room : nameShare ≤ inner.room := by
    dsimp only [inner]
    omega
  have opened : call.foldNumbers step =
      inner.foldItems fun state item => step state <$> Query.number item := by
    funext state text
    rw [foldNumbers, within, Query.within_of_le (by omega)]
  rw [opened]
  exact foldItems_spelled same written room _ state

theorem foldAll_spelled (given : call.expression = functions.evaluate (calls + 1))
    (written : Range.ofText? argument = .ok (some range))
    (enough : Nesting.numbers + nameShare ≤ call.room) (before after : List Text)
    (step : β → Number → β) (state : β) :
    Query.Alike .naming
      (foldAll { call with arguments := before ++ argument :: after } step state)
      (foldAll { call with arguments := before ++ range.names ++ after } step state) :=
  Query.Alike.foldlM_replace (foldNumbers_spelled given written enough step) before after state

end Call

/-- The functions of numbers ask for the names of a range as for references. -/
theorem Builtin.body_spelled {functions : Registry} {builtin : Builtin} {call : Call}
    {calls : Nat} {argument : Text} {range : Range} (takes : builtin.takesItems = true)
    (given : call.expression = functions.evaluate (calls + 1))
    (written : Range.ofText? argument = .ok (some range))
    (enough : Nesting.collection + (Nesting.numbers + Call.nameShare) ≤ call.room)
    (before after : List Text) :
    Query.Alike .naming
      (builtin.body { call with arguments := before ++ argument :: after })
      (builtin.body { call with arguments := before ++ range.names ++ after }) := by
  have extreme (choose : Number → Number → Number) : Query.Alike .naming
      (Function.extreme choose { call with arguments := before ++ argument :: after })
      (Function.extreme choose { call with arguments := before ++ range.names ++ after }) := by
    let inner : Call := { call with room := call.room - Nesting.collection }
    have same : inner.expression = functions.evaluate (calls + 1) := given
    have room : Nesting.numbers + Call.nameShare ≤ inner.room := by
      dsimp only [inner]
      omega
    simp only [Function.extreme, Call.within]
    rw [Query.within_of_le (by omega), Query.within_of_le (by omega)]
    exact (Call.foldAll_spelled same written room before after _ _).bind fun _ => .done _
  have all {β : Type} (step : β → Number → β) (state : β) :=
    Call.foldAll_spelled given written (by omega) before after step state
  cases builtin with
  | sum => exact all _ _
  | average => exact (all _ _).bind fun _ => .done _
  | min => exact extreme Number.earlierMin
  | max => exact extreme Number.earlierMax
  | _ => cases takes

/-! ## Counts -/

/-- A change of the state that every step carries through is carried through the items. -/
theorem Call.foldItems_change {α β : Type} (change : α → β) {step : α → CellValue → Query α}
    {step' : β → CellValue → Query β}
    (carries : ∀ state item, step' (change state) item = change <$> step state item)
    (call : Call) (argument : Text) (state : α) :
    call.foldItems step' (change state) argument =
      change <$> call.foldItems step state argument := by
  by_cases fits : Nesting.items ≤ call.room
  · rw [foldItems, foldItems, within, within, Query.within_of_le fits, Query.within_of_le fits]
    cases argument.isEmpty with
    | true => rfl
    | false =>
        simp only [Bool.false_eq_true, if_false, range?]
        rcases Range.ofText? argument with fault | _ | range
        · rfl
        · simp only [Query.bind_done, map_bind, carries]
        · simp only [Query.bind_done, Range.foldCells_eq_foldlM]
          refine Query.foldlM_change change (fun state name => ?_) range.names state
          rw [map_bind]
          exact congrArg _ (funext (carries state))
  · simp only [foldItems, within, Query.within, if_neg fits]
    rfl

namespace Function

variable {functions : Registry} {call : Call} {calls : Nat} {name argument : Text}
  {range : Range}

/-- Add the items of one more argument to what has been counted. -/
def tally (call : Call) (total : Nat) (argument : Text) : Query Nat := do
  let range ← Call.range? argument
  call.foldItems (fun total item =>
    pure (if counts range.isSome item then total + 1 else total)) total argument

theorem count_eq_map (call : Call) (arguments : List Text) :
    count { call with arguments := arguments } =
      Number.ofNat <$> arguments.foldlM (tally call) 0 :=
  rfl

/-- What has been counted before makes no other difference. -/
theorem tally_add (call : Call) (argument : Text) (total more : Nat) :
    tally call (total + more) argument = (· + more) <$> tally call total argument := by
  rw [tally, tally, map_bind]
  refine congrArg _ (funext fun range => ?_)
  refine Call.foldItems_change (· + more) (fun total item => ?_) call argument total
  cases counts range.isSome item with
  | true => exact congrArg Query.done (Nat.add_right_comm total more 1)
  | false => rfl

/-- The cells of a range are counted with those in a cycle, -/
theorem tally_of_range (written : Range.ofText? argument = .ok (some range))
    (enough : Call.nameShare ≤ call.room) (total : Nat) :
    tally call total argument =
      Query.countAnswers (call.room - Nesting.items - Nesting.lookup) (counts true) total
        range.names := by
  rw [Call.nameShare] at enough
  rw [tally, Call.range?, written]
  simp only [Query.bind_done]
  rw [Call.foldItems_of_range written, Query.within_of_le (by omega), Query.countAnswers]
  simp only [Query.request_of_le (show Nesting.lookup ≤ call.room - Nesting.items by omega),
    Query.bind_ask, Query.bind_done]
  rfl

/-- and references to the same cells without them. -/
theorem foldlM_tally_of_names (given : call.expression = functions.evaluate (calls + 1))
    (enough : Call.nameShare ≤ call.room) {names : List Text}
    (named : ∀ name ∈ names, name.NamesCell) (total : Nat) :
    names.foldlM (tally call) total =
      Query.countAnswers (call.room - Call.nameShare) (counts false) total names := by
  induction names generalizing total with
  | nil => rfl
  | cons name names inductionHypothesis =>
      obtain ⟨first, later⟩ := List.forall_mem_cons.mp named
      have counted : tally call total name = .ask (call.room - Call.nameShare) name fun item =>
          .done (if counts false item then total + 1 else total) := by
        rw [tally, Call.range?, first.range_eq]
        exact Call.foldItems_of_name given first enough _ total
      rw [List.foldlM_cons, counted, Query.bind_ask, Query.countAnswers_cons]
      exact congrArg _ (funext fun answer => inductionHypothesis later _)

theorem countP_counts (answers : Text → CellValue) (names : List Text) :
    (names.countP fun name => counts true (answers name)) =
      (names.countP fun name => counts false (answers name)) +
        names.countP fun name => answers name = .error .cycle := by
  induction names with
  | nil => rfl
  | cons name names inductionHypothesis =>
      rw [List.countP_cons, List.countP_cons, List.countP_cons, inductionHypothesis]
      have one : (if counts true (answers name) = true then 1 else 0) =
          (if counts false (answers name) = true then 1 else 0) +
            if decide (answers name = .error .cycle) = true then 1 else 0 := by
        rcases answers name with value | code
        · rfl
        · cases code <;> rfl
      omega

/-- Counting over a range is ahead of counting over references by the cells in a cycle. -/
theorem count_spelled (given : call.expression = functions.evaluate (calls + 1))
    (written : Range.ofText? argument = .ok (some range))
    (enough : Call.nameShare ≤ call.room) (answers : Text → CellValue)
    (before after : List Text) :
    Query.Ahead answers (range.names.countP fun name => answers name = .error .cycle)
      ((before ++ argument :: after).foldlM (tally call) 0)
      ((before ++ range.names ++ after).foldlM (tally call) 0) := by
  rw [List.append_assoc, List.foldlM_append, List.foldlM_append]
  refine (Query.ahead_zero _).bind fun total => ?_
  rw [List.foldlM_cons, List.foldlM_append, Nat.add_zero, tally_of_range written enough,
    foldlM_tally_of_names given enough fun name => Range.namesCell_of_mem]
  refine (Query.ahead_countAnswers (countP_counts answers range.names)).bind fun total => ?_
  rw [Query.foldlM_change (· + _) fun total argument => tally_add call argument total _]
  exact Query.ahead_map _ _

end Function

/-- Two queries that count, one of them ahead of the other, fail alike or end in two numbers,
and the one is the sum of the other and of what it is ahead as long as whole numbers are
exact. -/
theorem Query.Ahead.totals {answers : Text → CellValue} {more : Nat} {query query' : Query Nat}
    (ahead : Query.Ahead answers more query query') :
    (Number.ofNat <$> query).requests answers = (Number.ofNat <$> query').requests answers ∧
    ((∃ failure, (Number.ofNat <$> query).outcome answers = .error failure ∧
        (Number.ofNat <$> query').outcome answers = .error failure) ∨
      ∃ total, (Number.ofNat <$> query').outcome answers = .ok (.ofNat total) ∧
        (Number.ofNat <$> query).outcome answers = .ok (.ofNat (total + more)) ∧
        (total + more ≤ Number.twoTo 53 →
          Number.ofNat (total + more) = .ofNat total + .ofNat more)) := by
  rw [requests_map, requests_map, outcome_map, outcome_map]
  refine ⟨ahead.requests, ?_⟩
  rcases ahead.outcome_cases with ⟨failure, ends, ends'⟩ | ⟨total, ends, ends'⟩
  · rw [ends, ends']
    exact .inl ⟨failure, rfl, rfl⟩
  · rw [ends, ends']
    refine .inr ⟨total, rfl, rfl, fun small => ?_⟩
    exact Number.ofNat_add (Nat.le_of_add_right_le small)
      (Nat.le_trans (Nat.le_add_left _ _) small)

/-! ## Calls in a text -/

theorem Range.passed_names (range : Range) (before after : List Text) :
    Arguments.passed (before ++ range.names ++ after) =
      before.map Text.strip ++ range.names ++ after.map Text.strip := by
  have stripped : range.names.map Text.strip = range.names := by
    refine (List.map_congr_left fun name member => ?_).trans (List.map_id _)
    exact (namesCell_of_mem member).strip_eq
  obtain ⟨name, member⟩ := List.exists_mem_of_length_pos range.length_names_pos
  have named := namesCell_of_mem member
  have solid : name.strip ≠ [] := named.strip_eq.symm ▸ named.ne_nil
  have inside : name ∈ before ++ range.names ++ after :=
    List.mem_append_left after (List.mem_append_right before member)
  rw [Arguments.passed_of_mem inside solid, List.map_append, List.map_append, stripped]

namespace Registry

variable {functions : Registry} {function : Letters} {before after arguments : List Text}
  {argument : Text} {range : Range} {room : Nat}

/-- A call with a range and the call with the range spelled out are calls of one function,
in the same room. -/
theorem exists_call_spelled {body : FunctionBody}
    (found : functions.find? (Text.upper function.text) = some body)
    (balanced : ∀ text ∈ before ++ argument :: after, Balanced false text)
    (written : Range.ofText? argument.strip = .ok (some range))
    (enough : Nesting.formula + Nesting.call + Nesting.body + Nesting.reference +
      Nesting.lookup ≤ room) :
    ∃ (call : Call) (calls : Nat) (before' after' : List Text),
      call.expression = functions.evaluate (calls + 1) ∧
      Nesting.collection + (Nesting.numbers + Call.nameShare) ≤ call.room ∧
      functions.query room (function.called (before ++ argument :: after)) =
        body { call with arguments := before' ++ argument.strip :: after' } ∧
      functions.query room (function.called (before ++ range.names ++ after)) =
        body { call with arguments := before' ++ range.names ++ after' } := by
  rw [Nesting.body] at enough
  have opened : Nesting.formula + Nesting.call ≤ room := by omega
  obtain ⟨balancedBefore, balancedFrom⟩ := List.forall_mem_append.mp balanced
  have balancedNames : ∀ text ∈ before ++ range.names ++ after, Balanced false text := by
    refine List.forall_mem_append.mpr ⟨List.forall_mem_append.mpr ⟨balancedBefore, ?_⟩, ?_⟩
    · exact fun name member => (Range.namesCell_of_mem member).balanced
    · exact (List.forall_mem_cons.mp balancedFrom).2
  have solid : argument.strip ≠ [] := by
    intro none
    rw [none] at written
    cases written
  have member : argument ∈ before ++ argument :: after :=
    List.mem_append_right before List.mem_cons_self
  refine ⟨⟨[], room - Nesting.formula - Nesting.call, functions.evaluate (room - Nesting.formula)⟩,
    room - Nesting.formula - 1, before.map Text.strip, after.map Text.strip, ?_, ?_, ?_, ?_⟩
  · have positive : 1 ≤ Nesting.call := by decide
    dsimp only
    rw [Nat.sub_add_cancel (by omega)]
  · simp only [Call.nameShare]
    omega
  · rw [query_called found balanced opened, Arguments.passed_of_mem member solid, List.map_append,
      List.map_cons]
  · rw [query_called found balancedNames opened, range.passed_names]

/-- A range among the arguments stands for references to its cells, row by row.  The
functions of numbers ask for the same names, whoever answers, and have the same value.  A
count asks for the same names, too; it is larger by the cells that are answered with
`#CYCLE`, and fails only as it would with the references. -/
theorem range_spelled (functions : Registry) {function : Letters} {builtin : Builtin}
    {before after : List Text} {argument : Text} {range : Range} {room : Nat}
    (found : functions.find? (Text.upper function.text) = some builtin.body)
    (balanced : ∀ text ∈ before ++ argument :: after, Balanced false text)
    (written : Range.ofText? argument.strip = .ok (some range))
    (enough : Nesting.formula + Nesting.call + Nesting.body + Nesting.reference +
      Nesting.lookup ≤ room) :
    let ranged := functions.query room (function.called (before ++ argument :: after))
    let spelled := functions.query room (function.called (before ++ range.names ++ after))
    (builtin.takesItems = true →
      (∀ (m : Type → Type) [Monad m] (resolver : Text → m CellValue),
        (ranged.run fun _ name => resolver name) = spelled.run fun _ name => resolver name) ∧
      ∀ answers : Text → CellValue, ranged.requests answers = spelled.requests answers ∧
        CellValue.ofOutcome (ranged.outcome answers) =
          CellValue.ofOutcome (spelled.outcome answers)) ∧
    (builtin = .count → ∀ answers : Text → CellValue,
      let cyclic := range.names.countP fun name => answers name = .error .cycle
      ranged.requests answers = spelled.requests answers ∧
      ((∃ failure, ranged.outcome answers = .error failure ∧
          spelled.outcome answers = .error failure) ∨
        ∃ total, spelled.outcome answers = .ok (.ofNat total) ∧
          ranged.outcome answers = .ok (.ofNat (total + cyclic)) ∧
          (total + cyclic ≤ Number.twoTo 53 →
            Number.ofNat (total + cyclic) = .ofNat total + .ofNat cyclic))) := by
  intro ranged spelled
  obtain ⟨call, calls, before', after', given, inside, rangedEq, spelledEq⟩ :=
    exists_call_spelled found balanced written enough
  constructor
  · intro takes
    have alike : Query.Alike .naming ranged spelled := by
      dsimp only [ranged, spelled]
      rw [rangedEq, spelledEq]
      exact Builtin.body_spelled takes given written inside before' after'
    refine ⟨fun m _ resolver => alike.run_eq_of_naming resolver, fun answers => ?_⟩
    exact ⟨alike.requests_eq_of_naming answers,
      congrArg CellValue.ofOutcome (alike.run_eq_of_naming (m := Id) answers)⟩
  · rintro rfl answers cyclic
    have ahead := Function.count_spelled given written (by omega) answers before' after'
    have rangedCount := rangedEq.trans (Function.count_eq_map call _)
    have spelledCount := spelledEq.trans (Function.count_eq_map call _)
    dsimp only [ranged, spelled]
    rw [rangedCount, spelledCount]
    exact ahead.totals

/-- Four cells between two other arguments: the sums are equal, and with one of the cells in
a cycle the count over the range is larger by one. -/
theorem range_spelled_square :
    (∀ answers : Text → CellValue,
      CellValue.ofOutcome ((builtins.query 50 "SUM(5,b$2:A1,C3)".toList).outcome answers) =
        CellValue.ofOutcome
          ((builtins.query 50 "SUM(5,A1,B1,A2,B2,C3)".toList).outcome answers)) ∧
    ∃ (answers : Text → CellValue) (total : Nat), answers "B1".toList = .error .cycle ∧
      (builtins.query 50 "COUNT(5,A1,B1,A2,B2,C3)".toList).outcome answers =
        .ok (.ofNat total) ∧
      (builtins.query 50 "COUNT(5,b$2:A1,C3)".toList).outcome answers =
        .ok (.ofNat (total + 1)) := by
  let sum : Letters := ⟨"SUM".toList, by decide, by decide⟩
  let count : Letters := ⟨"COUNT".toList, by decide, by decide⟩
  let partly (name : Text) : CellValue :=
    if name = "B1".toList then .error .cycle else .number (.ofNat 2)
  have written : Range.ofText? (Text.strip "b$2:A1".toList) =
      .ok (some (Range.between ⟨1, 1⟩ ⟨0, 0⟩)) := by decide +kernel
  have names : (Range.between ⟨1, 1⟩ ⟨0, 0⟩).names =
      ["A1".toList, "B1".toList, "A2".toList, "B2".toList] := by decide +kernel
  have between : Balanced false "b$2:A1".toList := by
    iterate 6 apply Balanced.char (by decide) (by decide) (.inr (by decide))
    exact .nil false
  have balanced : ∀ text ∈ ["5".toList] ++ "b$2:A1".toList :: ["C3".toList],
      Balanced false text := by
    intro text member
    rcases List.mem_cons.mp member with rfl | member
    · exact Text.balanced_of_all_isPlain (by decide)
    rcases List.mem_pair.mp member with rfl | rfl
    · exact between
    · exact Text.balanced_of_all_isPlain (by decide)
  obtain ⟨sums, -⟩ := @range_spelled builtins sum .sum ["5".toList] ["C3".toList] _ _ 50 rfl
    balanced written (by decide)
  obtain ⟨-, counts⟩ := @range_spelled builtins count .count ["5".toList] ["C3".toList] _ _ 50 rfl
    balanced written (by decide)
  rw [names] at sums counts
  constructor
  · exact fun answers => ((sums rfl).2 answers).2
  · have value : (builtins.query 50 "COUNT(5,A1,B1,A2,B2,C3)".toList).outcome partly =
        .ok (.ofNat 5) := by decide +kernel
    rcases (counts rfl partly).2 with ⟨failure, -, fails⟩ | ⟨total, spelled, ranged, -⟩
    · exact absurd (value.symm.trans fails) nofun
    · exact ⟨partly, total, rfl, spelled, ranged⟩

end Registry

end Spreadsheet
