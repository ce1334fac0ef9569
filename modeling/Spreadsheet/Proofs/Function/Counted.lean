import Spreadsheet.Proofs.Function.Called
import Spreadsheet.Proofs.Function.Legible
import Spreadsheet.Proofs.Function.Room
import Spreadsheet.Proofs.Function.Spelled

/-!
# Counts

`COUNT` goes through its arguments from left to right, whatever becomes of them.  A range adds
the cells that are answered with a number or are part of a cycle, any other argument adds one
if it has a value, and one that fails adds nothing.  Only a blank argument ends the count.

`Function.Counted` says so of the questions and answers of a whole call, whoever gives the
answers, and they settle the count.
-/

namespace Spreadsheet

namespace Function

variable {evaluate : Text → Query Number} {argument : Text} {arguments : List Text}
  {exchange : Exchange}

/-- So many items of one argument count when these are the questions and answers for it. -/
inductive CountedArgument (evaluate : Text → Query Number) (argument : Text) :
    Exchange → Nat → Prop where
  | range {range : Range} {exchange : Exchange}
      (written : Range.ofText? argument = .ok (some range))
      (asked : exchange.map Prod.fst = range.names) :
      CountedArgument evaluate argument exchange
        (exchange.countP fun entry => counts true entry.2)
  | value {exchange : Exchange} {value : Number} (alone : Range.ofText? argument = .ok none)
      (evaluates : (evaluate argument).Transcript exchange (.ok value)) :
      CountedArgument evaluate argument exchange 1
  | failure {exchange : Exchange} {cause : Cause} (alone : Range.ofText? argument = .ok none)
      (fails : (evaluate argument).Transcript exchange (.error (.error cause))) :
      CountedArgument evaluate argument exchange 0

/-- So many items of all arguments count. -/
inductive Counted (evaluate : Text → Query Number) : List Text → Exchange → Nat → Prop where
  | nil : Counted evaluate [] [] 0
  | cons {argument : Text} {arguments : List Text} {first later : Exchange} {one more : Nat}
      (head : CountedArgument evaluate argument first one)
      (tail : Counted evaluate arguments later more) :
      Counted evaluate (argument :: arguments) (first ++ later) (one + more)

theorem CountedArgument.unique {first first' later later' : Exchange} {one one' : Nat}
    (counted : CountedArgument evaluate argument first one)
    (counted' : CountedArgument evaluate argument first' one')
    (same : first ++ later = first' ++ later') : first = first' ∧ later = later' ∧ one = one' := by
  cases counted with
  | range written asked =>
      cases counted' with
      | range written' asked' =>
          cases written.symm.trans written'
          have lengths : first.length = first'.length := by
            rw [← List.length_map Prod.fst, asked, ← asked', List.length_map]
          obtain ⟨rfl, rfl⟩ := List.append_inj same lengths
          exact ⟨rfl, rfl, rfl⟩
      | value alone _ => cases written.symm.trans alone
      | failure alone _ => cases written.symm.trans alone
  | value alone evaluates =>
      cases counted' with
      | range written _ => cases written.symm.trans alone
      | value _ evaluates' =>
          obtain ⟨rfl, rfl, -⟩ := evaluates.unique evaluates' same
          exact ⟨rfl, rfl, rfl⟩
      | failure _ fails =>
          obtain ⟨-, -, impossible⟩ := evaluates.unique fails same
          cases impossible
  | failure alone fails =>
      cases counted' with
      | range written _ => cases written.symm.trans alone
      | value _ evaluates =>
          obtain ⟨-, -, impossible⟩ := fails.unique evaluates same
          cases impossible
      | failure _ fails' =>
          obtain ⟨rfl, rfl, -⟩ := fails.unique fails' same
          exact ⟨rfl, rfl, rfl⟩

/-- The questions and answers settle the count. -/
theorem Counted.unique {total total' : Nat} (counted : Counted evaluate arguments exchange total)
    (counted' : Counted evaluate arguments exchange total') : total = total' := by
  induction counted generalizing total' with
  | nil =>
      cases counted'
      rfl
  | @cons argument arguments first later one more head _ inductionHypothesis =>
      generalize whole : first ++ later = exchange at counted'
      cases counted' with
      | cons head' tail' =>
          obtain ⟨rfl, rfl, rfl⟩ := head.unique head' whole
          rw [inductionHypothesis tail']

/-! ## Going through the arguments -/

/-- The cells of a range are asked for and counted one after the other. -/
theorem transcript_countCells {room total : Nat} {names : List Text}
    {ending : Except Failure Nat}
    (transcript : (names.foldlM (fun total name => Query.request room name >>= fun item =>
      pure (if counts true item then total + 1 else total)) total).Transcript exchange ending) :
    ending = .error .tooDeep ∨ exchange.map Prod.fst = names ∧
      ending = .ok (total + exchange.countP fun entry => counts true entry.2) := by
  induction names generalizing total exchange with
  | nil =>
      cases transcript
      exact .inr ⟨rfl, rfl⟩
  | cons name names inductionHypothesis =>
      rw [List.foldlM_cons] at transcript
      by_cases fits : Nesting.lookup ≤ room
      · rw [Query.request_of_le fits] at transcript
        cases transcript with
        | @ask _ _ _ answer exchange _ later =>
            rcases inductionHypothesis later with deep | ⟨asked, counted⟩
            · exact .inl deep
            · refine .inr ⟨congrArg (name :: ·) asked, ?_⟩
              rw [counted, List.countP_cons]
              cases counts true answer with
              | true => simp only [if_true, Nat.add_assoc, Nat.add_comm 1]
              | false => rfl
      · rw [Query.request, Query.within_of_lt (Nat.lt_of_not_le fits)] at transcript
        cases transcript
        exact .inl rfl

/-- An argument is evaluated as an expression in the room that is left for its items. -/
def evaluateItem (call : Call) (argument : Text) : Query Number :=
  Call.evaluate { call with room := call.room - Nesting.items } argument

/-- The arguments can be read as far as they are tried as ranges, and evaluating them does not
break off. -/
def Readable (call : Call) (argument : Text) : Prop :=
  (∀ fault, Range.ofText? argument ≠ .error fault) ∧
    (evaluateItem call argument).Always (fun _ _ => True)
      fun failure => ∀ escape, failure ≠ .escape escape

/-- What becomes of an argument that is an expression: it is nested too deeply, or counts if it
has a value. -/
theorem transcript_caught {query : Query Number} {total : Nat} {ending : Except Failure Nat}
    (kept : query.Always (fun _ _ => True) fun failure => ∀ escape, failure ≠ .escape escape)
    (transcript : (query.caught >>= fun item =>
      pure (if counts false item then total + 1 else total)).Transcript exchange ending) :
    ending = .error .tooDeep ∨
      (∃ value, query.Transcript exchange (.ok value) ∧ ending = .ok (total + 1)) ∨
      ∃ cause, query.Transcript exchange (.error (.error cause)) ∧ ending = .ok total := by
  rcases transcript.bind_cases with ⟨failure, failed, rfl⟩ |
    ⟨first, second, item, rfl, caught, counted⟩
  · rcases failed.caught_cases with ⟨_, -, impossible⟩ | ⟨_, -, impossible⟩ |
      ⟨failure, uncaught, fails, same⟩
    · cases impossible
    · cases impossible
    · cases same
      cases failure with
      | error cause => cases uncaught
      | tooDeep => exact .inl rfl
      | escape escape => exact absurd rfl (fails.failing kept escape)
  · cases counted
    rw [List.append_nil]
    rcases caught.caught_cases with ⟨value, evaluates, same⟩ | ⟨cause, fails, same⟩ |
      ⟨_, -, -, impossible⟩
    · cases same
      exact .inr (.inl ⟨value, evaluates, rfl⟩)
    · cases same
      exact .inr (.inr ⟨cause, fails, rfl⟩)
    · cases impossible

/-- What becomes of one argument: it is nested too deeply, or blank, or it counts. -/
theorem transcript_tally {call : Call} (readable : Readable call argument) {total : Nat}
    {ending : Except Failure Nat}
    (transcript : (tally call total argument).Transcript exchange ending) :
    ending = .error .tooDeep ∨
      (argument = [] ∧ ending = .error (.error .blankArgument)) ∨
      argument ≠ [] ∧ ∃ one, ending = .ok (total + one) ∧
        CountedArgument (evaluateItem call) argument exchange one := by
  obtain ⟨readable, kept⟩ := readable
  -- An argument is tried as a range first, and only then found to be blank.
  rw [tally, Call.range?] at transcript
  cases written : Range.ofText? argument with
  | error fault => exact absurd written (readable fault)
  | ok range =>
      rw [written] at transcript
      dsimp only at transcript
      rw [Query.bind_done] at transcript
      cases range with
      | some range =>
          have solid : argument ≠ [] := by
            rintro rfl
            cases written
          rw [Call.foldItems_of_range written] at transcript
          rcases transcript.within_cases with deep | cells
          · exact .inl deep
          · rcases transcript_countCells cells with deep | ⟨asked, counted⟩
            · exact .inl deep
            · exact .inr (.inr ⟨solid, _, counted, .range written asked⟩)
      | none =>
          rw [Call.foldItems, Call.within] at transcript
          rcases transcript.within_cases with deep | items
          · exact .inl deep
          · cases argument with
            | nil =>
                cases items
                exact .inr (.inl ⟨rfl, rfl⟩)
            | cons c argument =>
                rw [Call.range?, written] at items
                rcases transcript_caught kept items with deep | ⟨value, evaluates, same⟩ |
                  ⟨cause, fails, same⟩
                · exact .inl deep
                · exact .inr (.inr ⟨List.cons_ne_nil _ _, 1, same, .value written evaluates⟩)
                · exact .inr (.inr ⟨List.cons_ne_nil _ _, 0, same, .failure written fails⟩)

theorem transcript_foldlM_tally {call : Call}
    (readable : ∀ argument ∈ arguments, Readable call argument) {total : Nat}
    {ending : Except Failure Nat}
    (transcript : (arguments.foldlM (tally call) total).Transcript exchange ending) :
    ending = .error .tooDeep ∨
      ([] ∈ arguments ∧ ending = .error (.error .blankArgument)) ∨
      [] ∉ arguments ∧ ∃ more, ending = .ok (total + more) ∧
        Counted (evaluateItem call) arguments exchange more := by
  induction arguments generalizing total exchange with
  | nil =>
      cases transcript
      exact .inr (.inr ⟨List.not_mem_nil, 0, rfl, .nil⟩)
  | cons argument arguments inductionHypothesis =>
      obtain ⟨first, others⟩ := List.forall_mem_cons.mp readable
      rw [List.foldlM_cons] at transcript
      rcases transcript.bind_cases with ⟨failure, failed, rfl⟩ |
        ⟨before, behind, middle, rfl, tallied, following⟩
      · rcases transcript_tally first failed with deep | ⟨rfl, blank⟩ | ⟨_, _, impossible, _⟩
        · cases deep
          exact .inl rfl
        · cases blank
          exact .inr (.inl ⟨List.mem_cons_self, rfl⟩)
        · cases impossible
      · rcases transcript_tally first tallied with impossible | ⟨-, impossible⟩ |
          ⟨solid, one, same, head⟩
        · cases impossible
        · cases impossible
        · cases same
          rcases inductionHypothesis others following with deep | ⟨blank, failed⟩ |
            ⟨unblank, more, same, tail⟩
          · exact .inl deep
          · exact .inr (.inl ⟨List.mem_cons_of_mem _ blank, failed⟩)
          · refine .inr (.inr ⟨?_, one + more, ?_, .cons head tail⟩)
            · rw [List.mem_cons, not_or]
              exact ⟨solid.symm, unblank⟩
            · rw [same, Nat.add_assoc]

end Function

namespace Registry

variable {arguments : List Text} {room : Nat} {exchange : Exchange}
  {ending : Except Failure Number}

/-- With room for every character, nothing is nested too deeply. -/
theorem lt_of_transcript_tooDeep {text : Text}
    (transcript : (builtins.query room text).Transcript exchange (.error .tooDeep)) :
    room < Nesting.formula + Nesting.perCharacter * text.length := by
  apply Nat.lt_of_not_le
  intro enough
  have roomy : Query.Alike (.roomy 0) (builtins.query room text) (builtins.query room text) :=
    query_roomy 0 (by omega) (by omega)
  have always : (builtins.query room text).Always (fun _ _ => True) (· ≠ .tooDeep) :=
    roomy.always id (fun _ => trivial) And.right
  exact transcript.failing always rfl

/-- The arguments of a call whose text is legible can be read. -/
theorem readable_of_legible {function : Letters}
    (balanced : ∀ argument ∈ arguments, Balanced false argument)
    (legible : (function.called arguments).Legible) (others : List Text) (left calls : Nat) :
    ∀ argument ∈ Arguments.passed arguments,
      Function.Readable ⟨others, left, builtins.evaluate calls⟩ argument := by
  obtain ⟨readable, inside⟩ := legible
  rw [Formula.ofText_called function balanced, Formula.arguments] at readable inside
  intro argument member
  refine ⟨readable argument member, ?_⟩
  rw [Function.evaluateItem, Call.evaluate, Call.within, Query.within]
  split
  · exact (inside argument member).evaluate_always calls _
  · exact fun _ same => Failure.noConfusion same

/-- A count is never wrong and never fails but for a blank argument.  Whoever answers, if no
argument is blank, it is the number of cells in ranges that are answered with a number or are
part of a cycle, and of other arguments that have a value.  With a blank argument it is an
error, whatever the other ones are.  Nothing is nested too deeply where there is room for
every character. -/
theorem count_exact (balanced : ∀ argument ∈ arguments, Balanced false argument)
    (legible : (Builtin.count.word.called arguments).Legible)
    (transcript : (builtins.query room (Builtin.count.word.called arguments)).Transcript
      exchange ending) :
    let passed := Arguments.passed arguments
    let evaluate := Function.evaluateItem ⟨passed, room - Nesting.formula - Nesting.call,
      builtins.evaluate (room - Nesting.formula)⟩
    (ending = .error .tooDeep → room < Nesting.formula +
      Nesting.perCharacter * (Builtin.count.word.called arguments).length) ∧
    (ending ≠ .error .tooDeep →
      ([] ∉ passed → ∃ total, ending = .ok (.ofNat total) ∧
        Function.Counted evaluate passed exchange total ∧
        ∀ other, Function.Counted evaluate passed exchange other → other = total) ∧
      ([] ∈ passed → ending = .error (.error .blankArgument))) := by
  intro passed evaluate
  refine ⟨?_, fun shallow => ?_⟩
  · rintro rfl
    exact lt_of_transcript_tooDeep transcript
  · rw [query_eq_within (builtins_keeps .count).find? balanced] at transcript
    rcases transcript.within_cases with deep | opened
    · exact absurd deep shallow
    rcases opened.within_cases with deep | called
    · exact absurd deep shallow
    obtain ⟨ending', tallied, rfl⟩ := Query.Transcript.of_map called
    have readable := readable_of_legible balanced legible passed
      (room - Nesting.formula - Nesting.call) (room - Nesting.formula)
    rcases Function.transcript_foldlM_tally readable tallied with rfl | ⟨blank, rfl⟩ |
      ⟨unblank, total, rfl, counted⟩
    · exact absurd rfl shallow
    · exact ⟨fun unblank => absurd blank unblank, fun _ => rfl⟩
    · rw [Nat.zero_add]
      refine ⟨fun _ => ⟨total, rfl, counted, fun other counted' => ?_⟩,
        fun blank => absurd blank unblank⟩
      exact counted'.unique counted

/-- A range with a cell in a cycle and a cell that fails, an argument that cannot be read, and a
reference to a number: two items count.  With a blank argument behind them the count fails. -/
theorem count_exact_mixed :
    let answers (name : Text) : CellValue :=
      if name = "A1".toList then .error .cycle
      else if name = "B1".toList then .error .ref
      else .number .half
    let arguments := ["A1:B1".toList, "1 x 2".toList, "C1".toList]
    (builtins.query 200 "COUNT(A1:B1,1 x 2,C1)".toList).outcome answers = .ok (.ofNat 2) ∧
      (∃ (evaluate : Text → Query Number) (total : Nat),
        (builtins.query 200 "COUNT(A1:B1,1 x 2,C1)".toList).outcome answers =
            .ok (.ofNat total) ∧
          Function.Counted evaluate arguments
            [("A1".toList, .error .cycle), ("B1".toList, .error .ref),
              ("C1".toList, .number .half)] total) ∧
      (builtins.query 200 "COUNT(A1:B1,1 x 2,C1,)".toList).outcome answers =
        .error (.error .blankArgument) := by
  intro answers arguments
  have balanced : ∀ argument ∈ ["A1:B1".toList, "1 x 2".toList, "C1".toList],
      Balanced false argument := by decide
  have balancedBlank : ∀ argument ∈ arguments ++ [[]], Balanced false argument :=
    List.forall_mem_append.mpr ⟨balanced, List.forall_mem_singleton.mpr (.nil false)⟩
  have held := Query.transcript_of_answers answers
    (builtins.query 200 "COUNT(A1:B1,1 x 2,C1)".toList)
  have heldBlank := Query.transcript_of_answers answers
    (builtins.query 200 "COUNT(A1:B1,1 x 2,C1,)".toList)
  have exchange : ((builtins.query 200 "COUNT(A1:B1,1 x 2,C1)".toList).requests answers).map
      (fun name => (name, answers name)) = [("A1".toList, .error .cycle),
        ("B1".toList, .error .ref), ("C1".toList, .number .half)] := by decide +kernel
  have passed : Arguments.passed arguments = arguments := by decide +kernel
  rw [exchange] at held
  obtain ⟨shallow, counted⟩ := count_exact balanced (.of_countP (by decide)) held
  obtain ⟨shallowBlank, failed⟩ := count_exact balancedBlank (.of_countP (by decide)) heldBlank
  have two : (builtins.query 200 "COUNT(A1:B1,1 x 2,C1)".toList).outcome answers =
      .ok (.ofNat 2) := by decide +kernel
  obtain ⟨total, ends, whole, -⟩ :=
    (counted fun deep => absurd (shallow deep) (by decide)).1 (by decide +kernel)
  rw [passed] at whole
  refine ⟨two, ⟨_, total, ends, whole⟩, ?_⟩
  exact (failed fun deep => absurd (shallowBlank deep) (by decide)).2 (by decide +kernel)

end Registry

end Spreadsheet
