import Mathlib.Logic.Relation
import Spreadsheet.Proofs.Grid.Nesting

/-!
# Cells that do not depend on themselves

Where no cycle can be reached, the guard plays no part: the value of a cell is
that of its text, with the values of the cells that it asks for, and these
equations have one solution.  That no cycle can be reached is said by a rank that
goes down along every request a cell may make, whatever the answers.
-/

namespace Spreadsheet

namespace Query

variable {α : Type} {name : Text} {query query' : Query α}

/-- With some answers the conversation comes to ask for the name. -/
inductive MayAsk (name : Text) : Query α → Prop where
  | now (room : Nat) (next : CellValue → Query α) : MayAsk name (.ask room name next)
  | later {room : Nat} {other : Text} {next : CellValue → Query α} (answer : CellValue)
      (rest : MayAsk name (next answer)) : MayAsk name (.ask room other next)

theorem Asks.mayAsk {resolver : Nat → Text → Guarded CellValue} {room : Nat}
    {guard guard' : Guard} (asks : query.Asks resolver guard room name guard') :
    query.MayAsk name := by
  induction asks with
  | now room name next guard => exact .now room next
  | later _ _ inductionHypothesis => exact .later _ inductionHypothesis

/-- Taking the number out of an answer asks for nothing. -/
theorem mayAsk_of_number {value : CellValue} {rest : Number → Query α}
    (asks : (number value >>= rest).MayAsk name) : ∃ result, (rest result).MayAsk name := by
  cases value with
  | number result => exact ⟨result, asks⟩
  | error code => exact nomatch asks

/-- A conversation that is cut short asks for nothing else. -/
theorem Alike.mayAsk (alike : Alike .truncation query query') (asks : query.MayAsk name) :
    query'.MayAsk name := by
  induction alike with
  | done result => exact asks
  | fail _ => exact nomatch asks
  | cut _ => exact nomatch asks
  | ask related _ inductionHypothesis =>
      obtain ⟨-, rfl⟩ := related
      cases asks with
      | now => exact .now _ _
      | later answer rest => exact .later answer (inductionHypothesis answer rest)

/-- What is answered to other names makes no difference. -/
theorem run_congr_of_mayAsk {answers answers' : Text → Except Escape CellValue}
    (same : ∀ name, query.MayAsk name → answers name = answers' name) :
    query.run (fun _ name => answers name) = query.run fun _ name => answers' name := by
  induction query with
  | done result => rfl
  | fail failure => rfl
  | ask room name next inductionHypothesis =>
      rw [run, run, same name (.now room next)]
      congr 1
      funext answer
      exact inductionHypothesis answer fun other asks => same other (.later answer asks)

/-- A conversation that is not nested too deeply goes on in more room as it
does in less. -/
theorem Alike.run_truncation (alike : Alike .truncation query query')
    (answers : Text → Except Escape CellValue)
    (shallow : query.run (fun _ name => answers name) ≠ .ok (.error .tooDeep)) :
    query.run (fun _ name => answers name) = query'.run fun _ name => answers name := by
  induction alike with
  | done result => rfl
  | fail related => rw [related.1]
  | cut _ => exact absurd rfl shallow
  | @ask room room' name name' next next' related _ inductionHypothesis =>
      obtain ⟨-, rfl⟩ := related
      simp only [run] at shallow ⊢
      cases answered : answers name with
      | error escape => rfl
      | ok answer =>
          rw [answered] at shallow
          exact inductionHypothesis answer shallow

end Query

namespace Source

variable {source : Source} {functions : Registry} {room : Nat} {start c d : Coord}
  {values values' : Coord → Except Escape CellValue}

/-! ## Requests -/

/-- With some answers the formula of the cell asks for a cell of the extent. -/
def Requests (source : Source) (functions : Registry) (room : Nat) (c d : Coord) : Prop :=
  ∃ formula name, Content.ofText (source.text c) = .formula formula ∧
    (functions.query room formula).MayAsk name ∧
      Coord.decode name = .ok (some d) ∧ source.holds d = true

/-- Requests lead from one cell to the other. -/
def Reaches (source : Source) (functions : Registry) (room : Nat) : Coord → Coord → Prop :=
  Relation.ReflTransGen (source.Requests functions room)

/-- Every request that a cell reached from `start` may make goes down in rank. -/
def Ranked (source : Source) (functions : Registry) (room : Nat) (start : Coord)
    (rank : Coord → Nat) : Prop :=
  ∀ c d, source.Reaches functions room start c → source.Requests functions room c d →
    rank d < rank c

/-! ## Values without a guard -/

/-- The answer to a reference, where `values` are those of the cells. -/
def referenceValue (source : Source) (values : Coord → Except Escape CellValue)
    (name : Text) : Except Escape CellValue :=
  match Coord.decode name with
  | .error _ => .error .rowTooLong
  | .ok none => .ok (.error .ref)
  | .ok (some c) => if source.holds c then values c else .ok (.error .ref)

/-- The value of a cell's text, where `values` are those of the cells. -/
def cellValue (source : Source) (functions : Registry) (room : Nat)
    (values : Coord → Except Escape CellValue) (c : Coord) : Except Escape CellValue :=
  match Content.ofText (source.text c) with
  | .empty => .ok (.number (.zero false))
  | .literal text => .ok (.ofLiteral text)
  | .formula formula =>
      (functions.query room formula).run (fun _ name => source.referenceValue values name) >>=
        CellValue.ofOutcome

/-- Every cell that can be reached has the value of its text. -/
def Solves (source : Source) (functions : Registry) (room : Nat) (start : Coord)
    (values : Coord → Except Escape CellValue) : Prop :=
  ∀ c, source.Reaches functions room start c →
    values c = source.cellValue functions room values c

/-- The value of a text depends on the values of the requested cells only. -/
theorem cellValue_congr
    (same : ∀ d, source.Requests functions room c d → values d = values' d) :
    source.cellValue functions room values c = source.cellValue functions room values' c := by
  simp only [cellValue]
  cases content : Content.ofText (source.text c) with
  | empty => rfl
  | literal text => rfl
  | formula formula =>
      dsimp only
      congr 1
      apply Query.run_congr_of_mayAsk
      intro name asks
      simp only [referenceValue]
      cases decodes : Coord.decode name with
      | error fault => rfl
      | ok named =>
          cases named with
          | none => rfl
          | some d =>
              dsimp only
              split
              · next holds => exact same d ⟨formula, name, content, asks, decodes, holds⟩
              · rfl

/-- Two solutions have the same values. -/
theorem Solves.unique {rank : Coord → Nat}
    (ranked : source.Ranked functions room start rank)
    (solves : source.Solves functions room start values)
    (solves' : source.Solves functions room start values')
    (reached : source.Reaches functions room start c) : values' c = values c := by
  induction height : rank c using Nat.strongRecOn generalizing c with
  | ind _ inductionHypothesis =>
      subst height
      rw [solves c reached, solves' c reached]
      apply cellValue_congr
      intro d requests
      have lower := ranked c d reached requests
      exact inductionHypothesis (rank d) lower (reached.tail requests) rfl

/-- The values after so many rounds of giving every cell the value of its
text. -/
def rounds (source : Source) (functions : Registry) (room : Nat) :
    Nat → Coord → Except Escape CellValue
  | 0 => fun _ => .ok (.number (.zero false))
  | count + 1 => source.cellValue functions room (source.rounds functions room count)

/-- The equations have a solution: more rounds than the rank of a cell do not
change its value. -/
theorem exists_solution {rank : Coord → Nat}
    (ranked : source.Ranked functions room start rank) :
    ∃ values, source.Solves functions room start values := by
  have settled : ∀ c, source.Reaches functions room start c → ∀ count, rank c < count →
      source.rounds functions room count c = source.rounds functions room (rank c + 1) c := by
    intro c reached
    induction height : rank c using Nat.strongRecOn generalizing c with
    | ind _ inductionHypothesis =>
        subst height
        intro count above
        obtain ⟨more, rfl⟩ := Nat.exists_eq_add_of_lt above
        rw [rounds, rounds]
        apply cellValue_congr
        intro d requests
        have lower := ranked c d reached requests
        have settles := inductionHypothesis (rank d) lower d (reached.tail requests) rfl
        rw [settles _ (by omega), settles _ lower]
  refine ⟨fun c => source.rounds functions room (rank c + 1) c, fun c reached => ?_⟩
  change source.cellValue functions room (source.rounds functions room (rank c)) c = _
  apply cellValue_congr
  intro d requests
  exact settled d (reached.tail requests) (rank c) (ranked c d reached requests)

/-! ## The guard plays no part -/

/-- A reference has the value that it has without a guard, if the cell that it
names is not held and its formula is evaluated to the cell's value. -/
theorem resolve_eq_referenceValue (pure : functions.Pure) {rest : Nat} {name : Text}
    {guard : Guard}
    (agree : ∀ d, Coord.decode name = .ok (some d) → source.holds d = true →
      guard.contains d = false ∧ values d = source.cellValue functions room values d ∧
        ∀ formula, source.Enters guard name d formula →
          source.result functions ⟨rest, guard.enter d, formula⟩ =
            source.cellValue functions room values d) :
    ((source.resolve functions rest name).run guard).1 =
      source.referenceValue values name := by
  rw [resolve_eq pure, run_answer, referenceValue]
  cases decodes : Coord.decode name with
  | error fault => rfl
  | ok named =>
      cases named with
      | none => rfl
      | some d =>
          dsimp only
          cases holds : source.holds d with
          | false => rfl
          | true =>
              obtain ⟨free, valued, formulaValued⟩ := agree d decodes holds
              simp only [free, Bool.true_eq_false, Bool.false_eq_true, if_false, if_true]
              rw [valued]
              cases content : Content.ofText (source.text d) with
              | empty => rw [cellValue, content]
              | literal text => rw [cellValue, content]
              | formula formula =>
                  rw [← formulaValued formula ⟨decodes, holds, free, content⟩, result_eq]
                  rfl

/-- An evaluation under way gives its cell the value of the cell's text. -/
theorem result_eq_cellValue {rank : Coord → Nat} {chain : List Coord}
    {evaluation : Evaluation} (pure : functions.Pure)
    (ranked : source.Ranked functions room start rank)
    (solves : source.Solves functions room start values)
    (shallow : ∀ chain evaluation,
      source.Nested functions room (.cell start) chain evaluation →
        source.ending functions evaluation ≠ .ok (.error .tooDeep))
    (nested : source.Nested functions room (.cell start) chain evaluation)
    (reached : source.Reaches functions room start c)
    (content : Content.ofText (source.text c) = .formula evaluation.formula)
    (less : evaluation.room ≤ room)
    (above : ∀ d, evaluation.guard.contains d = true → rank c ≤ rank d) :
    source.result functions evaluation = source.cellValue functions room values c := by
  -- The rank falls with every request, so that none is for a cell that is held.
  induction height : rank c using Nat.strongRecOn generalizing c chain evaluation with
  | ind _ inductionHypothesis =>
      subst height
      have truncation := Registry.query_truncation pure less evaluation.formula
      have answers : source.ending functions evaluation =
          (functions.query evaluation.room evaluation.formula).run
            fun _ name => source.referenceValue values name := by
        apply Query.run_eq_of_answers (source.resolve_restores functions)
        intro rest name asks
        apply resolve_eq_referenceValue pure
        intro d decodes holds
        have requests : source.Requests functions room c d :=
          ⟨_, name, content, truncation.mayAsk asks.mayAsk, decodes, holds⟩
        have lower := ranked c d reached requests
        have fewer := asks.of_always (Registry.query_below pure _ _)
        constructor
        · -- The guard holds no cell of a rank below that of `c`.
          apply Bool.eq_false_iff.mpr
          intro held
          exact absurd (above d held) (Nat.not_le_of_lt lower)
        constructor
        · exact solves d (reached.tail requests)
        · intro formula enters
          apply inductionHypothesis (rank d) lower (nested.deeper asks enters)
            (reached.tail requests) enters.content
          · exact Nat.le_trans (Nat.le_of_lt fewer) less
          · intro other held
            rcases (Guard.contains_enter _ _ _).mp held with rfl | earlier
            · exact Nat.le_refl _
            · exact Nat.le_trans (Nat.le_of_lt lower) (above other earlier)
          · rfl
      have same := truncation.run_truncation (source.referenceValue values)
      rw [← answers] at same
      rw [result, same (shallow chain evaluation nested), cellValue, content]

end Source

/-- Where no cycle can be reached from a cell, and nothing that is evaluated for
it is nested too deeply, the cell has its value in the one solution of the
equations: no guard is needed, and a cell that is asked for more than once has its
value every time. -/
theorem Grid.evaluateWith_of_ranked (grid : Grid) {functions : Registry} {start : Coord}
    {rank : Coord → Nat} (pure : functions.Pure)
    (ranked : grid.source.Ranked functions Nesting.cellAllowance start rank)
    (shallow : ∀ chain evaluation,
      grid.source.Nested functions Nesting.cellAllowance (.cell start) chain evaluation →
        grid.source.ending functions evaluation ≠ .ok (.error .tooDeep)) :
    ∃ values, grid.source.Solves functions Nesting.cellAllowance start values ∧
      (∀ values', grid.source.Solves functions Nesting.cellAllowance start values' →
        ∀ c, grid.source.Reaches functions Nesting.cellAllowance start c →
          values' c = values c) ∧
      grid.evaluateWith functions start = values start := by
  obtain ⟨values, solves⟩ := Source.exists_solution ranked
  refine ⟨values, solves, fun _ solves' _ => Source.Solves.unique ranked solves solves', ?_⟩
  rw [evaluateWith, solves start .refl]
  cases content : Content.ofText (grid.source.text start) with
  | empty => simp only [Source.evaluateCell, Source.cellValue, content]
  | literal text => simp only [Source.evaluateCell, Source.cellValue, content]
  | formula formula =>
      rw [Source.evaluateCell_eq pure _ _ content, ← Source.result_eq]
      apply Source.result_eq_cellValue pure ranked solves shallow (.first (.cell content)) .refl
        content (Nat.le_refl _)
      intro d held
      rcases (Guard.contains_enter _ _ _).mp held with rfl | impossible
      · exact Nat.le_refl _
      · exact absurd impossible Bool.false_ne_true

/-- Four cells, one of which two others ask for. -/
def Grid.diamond : Grid :=
  { (default : Grid) with
    cells := .ofEntries [(⟨0, 0⟩, "=B1+C1".toList), (⟨0, 1⟩, "=D1".toList),
      (⟨0, 2⟩, "=D1".toList), (⟨0, 3⟩, "7".toList)] }

example : Grid.diamond.evaluateWith .builtins ⟨0, 0⟩ = .ok (.number (.ofNat 14)) := by
  decide +kernel

/-- Requests go from left to right. -/
theorem Grid.diamond_requests {c d : Coord}
    (requests : diamond.source.Requests .builtins Nesting.cellAllowance c d) :
    (c.col = 0 ∧ (d.col = 1 ∨ d.col = 2)) ∨ ((c.col = 1 ∨ c.col = 2) ∧ d.col = 3) := by
  obtain ⟨formula, name, content, asks, decodes, -⟩ := requests
  have member : (c, formula) ∈ [(⟨0, 0⟩, "B1+C1".toList), (⟨0, 1⟩, "D1".toList),
      ((⟨0, 2⟩ : Coord), "D1".toList)] := mem_formulas content
  have single : (Registry.builtins.query Nesting.cellAllowance "D1".toList).MayAsk name →
      name = "D1".toList := by
    intro asks
    change Query.MayAsk name (.ask 976 "D1".toList Query.number) at asks
    cases asks with
    | now => rfl
    | later answer rest => cases answer <;> exact nomatch rest
  have sum : (Registry.builtins.query Nesting.cellAllowance "B1+C1".toList).MayAsk name →
      name = "B1".toList ∨ name = "C1".toList := by
    intro asks
    change Query.MayAsk name (.ask 976 "B1".toList fun answer => Query.number answer >>=
      fun first => .ask 976 "C1".toList fun answer => Query.number answer >>=
        fun second => .done (first + second)) at asks
    cases asks with
    | now => exact .inl rfl
    | later answer rest =>
        obtain ⟨_, rest⟩ := Query.mayAsk_of_number rest
        cases rest with
        | now => exact .inr rfl
        | later answer rest =>
            obtain ⟨_, rest⟩ := Query.mayAsk_of_number rest
            exact nomatch rest
  simp only [List.mem_cons, Prod.mk.injEq, List.not_mem_nil, or_false] at member
  rcases member with ⟨rfl, rfl⟩ | ⟨rfl, rfl⟩ | ⟨rfl, rfl⟩
  · rcases sum asks with rfl | rfl
    · cases decodes
      decide
    · cases decodes
      decide
  · cases single asks
    cases decodes
    decide
  · cases single asks
    cases decodes
    decide

/-- The values in a diamond are those of the equations. -/
theorem Grid.evaluateWith_of_ranked_diamond :
    ∃ values, diamond.source.Solves .builtins Nesting.cellAllowance ⟨0, 0⟩ values ∧
      (∀ values', diamond.source.Solves .builtins Nesting.cellAllowance ⟨0, 0⟩ values' →
        ∀ c, diamond.source.Reaches .builtins Nesting.cellAllowance ⟨0, 0⟩ c →
          values' c = values c) ∧
      diamond.evaluateWith .builtins ⟨0, 0⟩ = values ⟨0, 0⟩ := by
  have ranked : diamond.source.Ranked .builtins Nesting.cellAllowance ⟨0, 0⟩
      fun c => (3 - c.col).toNat := by
    intro c d _ requests
    have columns := diamond_requests requests
    dsimp only
    omega
  apply evaluateWith_of_ranked diamond Registry.builtins_pure ranked
  intro chain evaluation nested
  apply ending_ne_tooDeep
  apply need_le_room _ nested
  decide +kernel

end Spreadsheet
