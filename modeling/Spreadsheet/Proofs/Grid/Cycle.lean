import Mathlib.Algebra.Order.BigOperators.Group.Finset
import Spreadsheet.Proofs.Function.Strict
import Spreadsheet.Proofs.Grid.Nesting

/-!
# Cells that depend on themselves

Where every cell of a set first asks for a cell of the set, following the
requests comes back to a cell that is under evaluation.  Its answer is `#CYCLE`,
and if each of the formulas on the way fails with it, so does the cell from which
they were followed, be it one of the set or one that leads into it.  Each formula
takes some of the room before it asks; the room must be enough for all of them.

Strict formulas pass the first answer on, so among the cells that are meant are
all those whose strict formula first writes a name of a cell of the set.
-/

namespace Spreadsheet

theorem Query.ask_ne_fail {α : Type} (room : Nat) (name : Text) (next : CellValue → Query α)
    (failure : Failure) : ask room name next ≠ fail failure :=
  nofun

namespace Source

variable {source : Source} {functions : Registry} {cells : Finset Coord} {cost : Coord → Nat}
  {guard : Guard} {links room most : Nat} {name formula : Text} {c d : Coord}

/-- Whatever the guard and whatever it still asks for, the conversation ends in a
failure that shows the code. -/
def FailsWith (source : Source) (functions : Registry) (query : Query Number)
    (code : ErrorCode) : Prop :=
  ∀ links guard, ∃ cause,
    ((query.run (source.follow functions links)).run guard).1 = .ok (.error (.error cause)) ∧
      cause.code = code

/-- The formula of the cell first asks for one of `cells`.  For that it takes some of
its room, but no more than `most`, and where the answer is `#CYCLE` it fails with
`#CYCLE`. -/
def AsksFirst (source : Source) (functions : Registry) (cells : Finset Coord) (most : Nat)
    (c : Coord) : Prop :=
  ∃ formula, Content.ofText (source.text c) = .formula formula ∧
    ∀ room, most ≤ room → ∃ rest name next d,
      functions.query room formula = .ask rest name next ∧ rest < room ∧ room ≤ rest + most ∧
        Coord.decode name = .ok (some d) ∧ d ∈ cells ∧
          source.FailsWith functions (next (.error .cycle)) .cycle

/-- The cells that are not held take so much room together. -/
def freeCost (cells : Finset Coord) (cost : Coord → Nat) (guard : Guard) : Nat :=
  ∑ c ∈ cells with guard.contains c = false, cost c

/-- A cell that is entered takes its part. -/
theorem freeCost_enter (member : c ∈ cells) (free : guard.contains c = false) :
    freeCost cells cost guard = cost c + freeCost cells cost (guard.enter c) := by
  have left : (cells.filter fun d => (guard.enter c).contains d = false) =
      (cells.filter fun d => guard.contains d = false).erase c := by
    ext d
    simp only [Finset.mem_filter, Finset.mem_erase, ← Bool.not_eq_true, Guard.contains_enter]
    tauto
  rw [freeCost, freeCost, left]
  exact (Finset.add_sum_erase _ cost (Finset.mem_filter.mpr ⟨member, free⟩)).symm

theorem answer_of_held (decodes : Coord.decode name = .ok (some c))
    (holds : source.holds c = true) (held : guard.contains c = true)
    (evaluate : Coord → Text → Guarded CellValue) :
    (source.answer evaluate name).run guard = (.ok (.error .cycle), guard) := by
  rw [run_answer, decodes]
  simp only [holds, held, Bool.true_eq_false, if_false, if_true]

/-- A formula fails with `#CYCLE` if that is the answer to its first question. -/
theorem run_evaluateFormula_cycle (asks : source.AsksFirst functions cells most c)
    (content : Content.ofText (source.text c) = .formula formula) (enough : most ≤ room)
    (answers : ∀ rest name d, rest < room → room ≤ rest + most →
      Coord.decode name = .ok (some d) → d ∈ cells →
        (source.follow functions links rest name).run guard = (.ok (.error .cycle), guard)) :
    (evaluateFormula functions room (source.follow functions links) formula).run guard =
      (.ok (.error .cycle), guard) := by
  obtain ⟨_, content', first⟩ := asks
  cases content.symm.trans content'
  obtain ⟨rest, name, next, d, asked, less, near, decodes, member, fails⟩ := first room enough
  obtain ⟨cause, ends, code⟩ := fails links guard
  have restored := Query.run_restores (source.follow_restores functions links)
    (next (.error .cycle)) guard
  rw [run_evaluateFormula, asked, Query.run_ask, answers rest name d less near decodes member]
  dsimp only
  rw [ends, restored]
  exact congrArg (fun code => (Except.ok (CellValue.error code), guard)) code

/-- A reference to a cell of the set is answered with `#CYCLE`. -/
theorem follow_eq_cycle (inside : ∀ c ∈ cells, source.holds c = true)
    (asks : ∀ c ∈ cells, source.AsksFirst functions cells (cost c) c)
    (decodes : Coord.decode name = .ok (some c)) (member : c ∈ cells)
    (enough : freeCost cells cost guard ≤ room) (linked : room ≤ links) :
    (source.follow functions links room name).run guard = (.ok (.error .cycle), guard) := by
  induction links generalizing room name guard c with
  | zero =>
      cases held : guard.contains c with
      | true => exact answer_of_held decodes (inside c member) held _
      | false =>
          -- Without room nothing could be asked for.
          obtain ⟨_, _, first⟩ := asks c member
          rw [freeCost_enter member held] at enough
          obtain ⟨rest, _, _, _, _, less, _⟩ := first room (by omega)
          omega
  | succ links inductionHypothesis =>
      cases held : guard.contains c with
      | true => exact answer_of_held decodes (inside c member) held _
      | false =>
          -- The cell takes its part of the room, and the cells still free have theirs.
          obtain ⟨formula, content, _⟩ := asks c member
          rw [freeCost_enter member held] at enough
          rw [follow, answer_of_enters ⟨decodes, inside c member, held, content⟩]
          have cycle : (evaluateFormula functions room (source.follow functions links)
              formula).run (guard.enter c) = (.ok (.error .cycle), guard.enter c) := by
            apply run_evaluateFormula_cycle (asks c member) content (by omega)
            intro rest name d less near decodes member
            exact inductionHypothesis decodes member (by omega) (by omega)
          rw [Guard.run_during, cycle, Guard.leave_enter held]

theorem freeCost_le (cells : Finset Coord) (cost : Coord → Nat) (guard : Guard) :
    freeCost cells cost guard ≤ ∑ c ∈ cells, cost c :=
  Finset.sum_le_sum_of_subset (Finset.filter_subset _ cells)

/-- A cell that leads into the set fails with `#CYCLE`. -/
theorem evaluateCell_eq_cycle (inside : ∀ c ∈ cells, source.holds c = true)
    (asks : ∀ c ∈ cells, source.AsksFirst functions cells (cost c) c)
    (leads : source.AsksFirst functions cells most c)
    (enough : most + freeCost cells cost (Guard.empty.enter c) ≤ room) :
    source.evaluateCell functions room c = .ok (.error .cycle) := by
  have ⟨formula, content, _⟩ := leads
  have cycle : (evaluateFormula functions room (source.follow functions room) formula).run
      (Guard.empty.enter c) = (.ok (.error .cycle), Guard.empty.enter c) := by
    apply run_evaluateFormula_cycle leads content (by omega)
    intro rest name d less near decodes member
    exact follow_eq_cycle inside asks decodes member (by omega) (Nat.le_of_lt less)
  rw [evaluateCell, content]
  dsimp only
  rw [Guard.run_during, cycle]

/-! ## Strict formulas -/

/-- A strict formula that first writes a name of one of the cells, and does not fail
before, first asks for this cell. -/
theorem asksFirst_of_strict {names : List Text}
    (content : Content.ofText (source.text c) = .formula formula)
    (strict : (Formula.ofText formula).Strict .builtins (name :: names))
    (unfailing : ∀ failure,
      Registry.builtins.query (Nesting.formulaOf formula.length) formula ≠ .fail failure)
    (decodes : Coord.decode name = .ok (some d)) (member : d ∈ cells) :
    source.AsksFirst .builtins cells (Nesting.formulaOf formula.length) c := by
  refine ⟨formula, content, fun room enough => ?_⟩
  have least : room - Nesting.formulaOf formula.length + Nesting.formulaOf formula.length ≤
      room := by omega
  have alike : Query.Alike (.roomy 0)
      (Registry.builtins.query (Nesting.formulaOf formula.length) formula)
      (Registry.builtins.query room formula) :=
    Registry.query_roomy 0 (Nat.le_of_eq (Nat.zero_add _))
      (Nat.le_trans (Nat.le_of_eq (Nat.zero_add _)) enough)
  have near : (Registry.builtins.query room formula).Always
      (fun rest _ => room - Nesting.formulaOf formula.length ≤ rest) fun _ => True := by
    apply (Registry.query_roomy _ least least).always id
    · intro rest name rest' name' related
      exact related.2.1
    · exact fun _ => trivial
  have less := Registry.query_below Registry.builtins_pure room formula
  have strictly := Registry.query_strict strict room
  generalize Registry.builtins.query room formula = query at alike near less strictly ⊢
  cases strictly with
  | fail failure names =>
      generalize asked : Registry.builtins.query _ formula = query at alike
      cases alike with
      | fail related => exact absurd asked (unfailing _)
      | cut allowed => cases allowed
  | @ask rest _ next _ passes _ =>
      have close := Nat.sub_le_iff_le_add.mp near.1
      refine ⟨rest, name, next, d, rfl, less.1, close, decodes, member, ?_⟩
      intro links guard
      obtain ⟨cause, failed, code⟩ := passes .cycle
      exact ⟨cause, by rw [failed]; rfl, code⟩

theorem display_of_error (content : Content.ofText (source.text c) = .formula formula)
    {code : ErrorCode} (valued : source.evaluateCell functions room c = .ok (.error code)) :
    source.display functions room c = .ok code.text := by
  rw [display, content]
  dsimp only
  rw [valued]
  rfl

end Source

namespace Grid

/-- Let every cell of a set first ask for a cell of the set and fail with `#CYCLE` if
that is the answer.  If there is room for all of them, each has the value `#CYCLE`
and shows it, and so has each other cell that leads into the set in this way.  With
the built-in functions those are such cells whose formula is strict, first writes a
name of a cell of the set, and does not fail before it comes to that. -/
theorem cycle_reported (grid : Grid) {functions : Registry} {cells : Finset Coord}
    {cost : Coord → Nat} (inside : ∀ c ∈ cells, grid.source.holds c = true)
    (asks : ∀ c ∈ cells, grid.source.AsksFirst functions cells (cost c) c)
    (enough : ∑ c ∈ cells, cost c ≤ Nesting.cellAllowance) :
    (∀ c ∈ cells, grid.evaluateWith functions c = .ok (.error .cycle) ∧
      grid.displayWith functions c = .ok "#CYCLE".toList) ∧
    (∀ c ∉ cells, ∀ most, grid.source.AsksFirst functions cells most c →
      most + ∑ c ∈ cells, cost c ≤ Nesting.cellAllowance →
        grid.evaluateWith functions c = .ok (.error .cycle) ∧
          grid.displayWith functions c = .ok "#CYCLE".toList) ∧
    ∀ c formula name names d, Content.ofText (grid.text c) = .formula formula →
      (Formula.ofText formula).Strict .builtins (name :: names) →
      (∀ failure,
        Registry.builtins.query (Nesting.formulaOf formula.length) formula ≠ .fail failure) →
      Coord.decode name = .ok (some d) → d ∈ cells →
        grid.source.AsksFirst .builtins cells (Nesting.formulaOf formula.length) c := by
  have reported {c : Coord} {most : Nat} (leads : grid.source.AsksFirst functions cells most c)
      (room : most + Source.freeCost cells cost (Guard.empty.enter c) ≤ Nesting.cellAllowance) :
      grid.evaluateWith functions c = .ok (.error .cycle) ∧
        grid.displayWith functions c = .ok "#CYCLE".toList := by
    have valued := Source.evaluateCell_eq_cycle inside asks leads room
    have ⟨_, content, _⟩ := leads
    exact ⟨valued, Source.display_of_error content valued⟩
  have whole := Source.freeCost_le cells cost
  constructor
  · intro c member
    apply reported (asks c member)
    rw [← Source.freeCost_enter member (Guard.not_contains_empty c)]
    exact Nat.le_trans (whole _) enough
  constructor
  · intro c _ most leads room
    exact reported leads (Nat.le_trans (Nat.add_le_add_left (whole _) most) room)
  · intro c formula name names d content strict unfailing decodes member
    exact Source.asksFirst_of_strict content strict unfailing decodes member

/-- Two cells that ask for one another, and a cell that asks for one of them. -/
def lasso : Grid :=
  { (default : Grid) with
    cells := .ofEntries [(⟨0, 0⟩, "=B1+C2".toList), (⟨0, 1⟩, "=SUM(A1:A2)".toList),
      (⟨0, 2⟩, "=-A1".toList)] }

/-- The two cells of the lasso that ask for one another. -/
def loop : Finset Coord := {⟨0, 0⟩, ⟨0, 1⟩}

/-- As much room as the formula of a cell of the lasso takes, at most. -/
def lassoCost (c : Coord) : Nat :=
  Nesting.formulaOf (lasso.text c).tail.length

theorem lasso_asksFirst {c d : Coord} {formula name : Text} {names : List Text}
    (content : Content.ofText (lasso.source.text c) = .formula formula)
    (length : formula.length = (lasso.text c).tail.length)
    (strict : (Formula.ofText formula).Strict .builtins (name :: names))
    (unfailing : ∀ failure,
      Registry.builtins.query (Nesting.formulaOf formula.length) formula ≠ .fail failure)
    (decodes : Coord.decode name = .ok (some d)) (member : d ∈ loop) :
    lasso.source.AsksFirst .builtins loop (lassoCost c) c := by
  rw [lassoCost, ← length]
  exact Source.asksFirst_of_strict content strict unfailing decodes member

theorem lasso_strict_plus : (Formula.ofText "B1+C2".toList).Strict .builtins
    ["B1".toList, "C2".toList] := by
  have read : Formula.ofText "B1+C2".toList =
      .binary .add (.reference "B1".toList) (.reference "C2".toList) := by decide +kernel
  rw [read]
  exact .binary .add (.reference _) (.reference _)

theorem lasso_strict_sum : (Formula.ofText "SUM(A1:A2)".toList).Strict .builtins
    ["A1".toList, "A2".toList] := by
  have read : Formula.ofText "SUM(A1:A2)".toList =
      .call "SUM".toList ["A1:A2".toList] := by decide +kernel
  have range : Range.ofText? "A1:A2".toList =
      .ok (some (Range.between ⟨0, 0⟩ ⟨1, 0⟩)) := by decide +kernel
  have found : Registry.builtins.find? "SUM".toList = some Builtin.sum.body := rfl
  let namesOf : Text → List Text := fun _ => ["A1".toList, "A2".toList]
  have ranges : ∀ argument ∈ ["A1:A2".toList], ∀ written,
      Range.ofText? argument = .ok (some written) → namesOf argument = written.names := by
    intro argument member written same
    cases List.mem_singleton.mp member
    cases range.symm.trans same
    decide +kernel
  have others : ∀ argument ∈ ["A1:A2".toList], Range.ofText? argument = .ok none →
      (Formula.ofText argument).Strict .builtins (namesOf argument) := by
    intro argument member other
    cases List.mem_singleton.mp member
    cases range.symm.trans other
  rw [read]
  exact .items found rfl ranges others

theorem lasso_strict_negated : (Formula.ofText "-A1".toList).Strict .builtins ["A1".toList] := by
  have read : Formula.ofText "-A1".toList = .signed .minus (.reference "A1".toList) := by
    decide +kernel
  rw [read]
  exact .signed .minus (.reference _)

theorem loop_asksFirst : ∀ c ∈ loop,
    lasso.source.AsksFirst .builtins loop (lassoCost c) c := by
  intro c member
  rcases Finset.mem_insert.mp member with rfl | other
  · exact lasso_asksFirst rfl rfl lasso_strict_plus (Query.ask_ne_fail _ _ _) rfl (by decide)
  · cases Finset.mem_singleton.mp other
    exact lasso_asksFirst rfl rfl lasso_strict_sum (Query.ask_ne_fail _ _ _) rfl (by decide)

/-- Both cells of the loop and the one that leads into it are reported. -/
theorem cycle_reported_lasso :
    (∀ c ∈ loop, lasso.evaluateWith .builtins c = .ok (.error .cycle) ∧
      lasso.displayWith .builtins c = .ok "#CYCLE".toList) ∧
    lasso.evaluateWith .builtins ⟨0, 2⟩ = .ok (.error .cycle) ∧
      lasso.displayWith .builtins ⟨0, 2⟩ = .ok "#CYCLE".toList := by
  have held : ∀ c ∈ loop, lasso.source.holds c = true := by decide
  have leads : lasso.source.AsksFirst .builtins loop (lassoCost ⟨0, 2⟩) ⟨0, 2⟩ :=
    lasso_asksFirst rfl rfl lasso_strict_negated (Query.ask_ne_fail _ _ _) rfl (by decide)
  obtain ⟨inside, outside, -⟩ := cycle_reported lasso held loop_asksFirst (by decide +kernel)
  constructor
  · exact inside
  · exact outside ⟨0, 2⟩ (by decide) _ leads (by decide +kernel)

end Grid

end Spreadsheet
