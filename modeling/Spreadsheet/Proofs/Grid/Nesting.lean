import Mathlib.Data.List.Perm.Subperm
import Spreadsheet.Grid.Display
import Spreadsheet.Proofs.Function.Shorter
import Spreadsheet.Proofs.Grid.Nested

/-!
# How deep evaluations are nested

A cell is entered only while the guard does not hold it, so a chain of nested
evaluations is no longer than there are formulas in the grid, whether or not they
depend on themselves.  Each of them takes no more room than its text has
characters for, and so the number of formulas and the length of the longest one
bound the room that any evaluation takes.  With that much room nothing is ever
nested too deeply, and more room makes no difference.
-/

namespace Spreadsheet

/-- The text of a formula, if the content is one. -/
def Content.formula? : Content → Option Text
  | .formula text => some text
  | _ => none

/-- The room that a formula of so many characters takes without the cells that it
asks for, at most. -/
def Nesting.formulaOf (length : Nat) : Nat :=
  formula + perCharacter * length

/-- The room that an origin takes before any cell is entered, at most. -/
def Origin.share : Origin → Nat
  | .text _ written => Nesting.formulaOf written.length
  | .cell _ => 0
  | .reference _ _ => 0

namespace Grid

variable {grid : Grid} {origin : Origin} {guard : Guard} {formula : Text} {c : Coord}

/-- The stored formulas with their cells. -/
def formulas (grid : Grid) : List (Coord × Text) :=
  grid.cells.entries.filterMap fun entry =>
    (Content.ofText entry.2).formula?.map fun formula => (entry.1, formula)

/-- The cells in which formulas are stored. -/
def formulaCells (grid : Grid) : List Coord :=
  grid.formulas.map Prod.fst

/-- How many characters the longest stored formula has. -/
def longestFormula (grid : Grid) : Nat :=
  grid.formulas.foldr (fun entry longest => max entry.2.length longest) 0

/-- The room that an evaluation takes, at most. -/
def nestingBound (grid : Grid) (origin : Origin) : Nat :=
  origin.share + grid.formulaCells.length * Nesting.formulaOf grid.longestFormula

theorem mem_formulas (content : Content.ofText (grid.text c) = .formula formula) :
    (c, formula) ∈ grid.formulas := by
  cases found : grid.cells.get? c with
  | none =>
      simp only [text, found, Option.getD_none, Content.ofText] at content
      cases content
  | some text =>
      simp only [Grid.text, found, Option.getD_some] at content
      apply List.mem_filterMap.mpr
      exact ⟨(c, text), CoordMap.mem_of_get? found, by simp [content, Content.formula?]⟩

theorem mem_formulaCells (content : Content.ofText (grid.text c) = .formula formula) :
    c ∈ grid.formulaCells :=
  List.mem_map_of_mem (mem_formulas content)

theorem length_le_longestFormula (content : Content.ofText (grid.text c) = .formula formula) :
    formula.length ≤ grid.longestFormula := by
  have bounded : ∀ entries : List (Coord × Text), (c, formula) ∈ entries →
      formula.length ≤ entries.foldr (fun entry longest => max entry.2.length longest) 0 := by
    intro entries member
    induction entries with
    | nil => exact absurd member List.not_mem_nil
    | cons entry entries inductionHypothesis =>
        rw [List.foldr_cons]
        rcases List.mem_cons.mp member with rfl | later
        · exact Nat.le_max_left _ _
        · exact Nat.le_trans (inductionHypothesis later) (Nat.le_max_right _ _)
  exact bounded _ (mem_formulas content)

/-! ## Chains -/

/-- A chain is no longer than there are formulas. -/
theorem length_le_of_entered {before : Guard} {chain : List Coord}
    (entered : grid.source.Entered before chain guard) :
    chain.length ≤ grid.formulaCells.length := by
  have stored : chain ⊆ grid.formulaCells := by
    intro c member
    obtain ⟨formula, content⟩ := entered.formula c member
    exact mem_formulaCells content
  exact (List.subperm_of_subset entered.nodup stored).length_le

/-! ## Room -/

/-- How many formula cells can still be entered. -/
def free (grid : Grid) (guard : Guard) : Nat :=
  (grid.formulaCells.filter fun c => !guard.contains c).length

theorem free_le (grid : Grid) (guard : Guard) : grid.free guard ≤ grid.formulaCells.length :=
  List.length_filter_le _ _

/-- After a cell has been entered there is one less. -/
theorem free_enter_lt (content : Content.ofText (grid.text c) = .formula formula)
    (unheld : guard.contains c = false) : grid.free (guard.enter c) < grid.free guard := by
  have split : (grid.formulaCells.filter fun d => !(guard.enter c).contains d) =
      (grid.formulaCells.filter fun d => !guard.contains d).filter fun d => d != c := by
    rw [List.filter_filter]
    apply List.filter_congr
    intro d _
    rw [Bool.eq_iff_iff]
    simp [← Bool.not_eq_true, Guard.contains_enter]
  rw [free, split]
  apply List.length_filter_lt_length_iff_exists.mpr
  exact ⟨c, List.mem_filter.mpr ⟨mem_formulaCells content, by simp [unheld]⟩, by simp⟩

/-- The room for a formula and for all cells that can still be entered. -/
def need (grid : Grid) (guard : Guard) (formula : Text) : Nat :=
  Nesting.formulaOf formula.length + grid.free guard * Nesting.formulaOf grid.longestFormula

/-- A formula that is entered needs no more than there was for all of them. -/
theorem need_enter_le (content : Content.ofText (grid.text c) = .formula formula)
    (unheld : guard.contains c = false) :
    grid.need (guard.enter c) formula ≤
      grid.free guard * Nesting.formulaOf grid.longestFormula := by
  have share : Nesting.formulaOf formula.length ≤ Nesting.formulaOf grid.longestFormula :=
    Nat.add_le_add_left (Nat.mul_le_mul_left _ (length_le_longestFormula content)) _
  calc grid.need (guard.enter c) formula
      ≤ Nesting.formulaOf grid.longestFormula +
          grid.free (guard.enter c) * Nesting.formulaOf grid.longestFormula :=
        Nat.add_le_add_right share _
    _ = (grid.free (guard.enter c) + 1) * Nesting.formulaOf grid.longestFormula := by
        rw [Nat.succ_mul, Nat.add_comm]
    _ ≤ grid.free guard * Nesting.formulaOf grid.longestFormula :=
        Nat.mul_le_mul_right _ (free_enter_lt content unheld)

/-- The bound leaves the formula evaluated first what it needs. -/
theorem need_le_of_begins {chain : List Coord}
    (begins : grid.source.Begins origin chain guard formula) :
    grid.need guard formula ≤ grid.nestingBound origin := by
  have all (before : Guard) := Nat.mul_le_mul_right (Nesting.formulaOf grid.longestFormula)
    (grid.free_le before)
  cases begins with
  | text guard text => exact Nat.add_le_add_left (all guard) _
  | cell content =>
      rw [nestingBound, Origin.share, Nat.zero_add]
      exact Nat.le_trans (need_enter_le content (Guard.not_contains_empty _)) (all _)
  | reference enters =>
      rw [nestingBound, Origin.share, Nat.zero_add]
      exact Nat.le_trans (need_enter_le enters.content enters.free) (all _)

/-- A formula with what it needs is evaluated to the end, and leaves all cells
that can still be entered what they need. -/
theorem query_roomy {room room' : Nat} (enough : grid.need guard formula ≤ room)
    (enough' : grid.need guard formula ≤ room') :
    Query.Alike (.roomy (grid.free guard * Nesting.formulaOf grid.longestFormula))
      (Registry.builtins.query room formula) (Registry.builtins.query room' formula) := by
  rw [need, Nat.add_comm] at enough enough'
  exact Registry.query_roomy _ enough enough'

theorem query_always {room : Nat} (enough : grid.need guard formula ≤ room) :
    (Registry.builtins.query room formula).Always
      (fun rest _ => grid.free guard * Nesting.formulaOf grid.longestFormula ≤ rest)
      (· ≠ .tooDeep) := by
  apply (query_roomy enough enough).always id
  · intro rest name rest' name' related
    exact related.2.1
  · intro failure other related
    exact related.2

/-- Every evaluation that is ever under way has what it needs. -/
theorem need_le_room {room : Nat} {chain : List Coord} {evaluation : Evaluation}
    (enough : grid.nestingBound origin ≤ room)
    (nested : grid.source.Nested .builtins room origin chain evaluation) :
    grid.need evaluation.guard evaluation.formula ≤ evaluation.room := by
  induction nested with
  | first begins => exact Nat.le_trans (need_le_of_begins begins) enough
  | deeper _ asks enters inductionHypothesis =>
      have restored := asks.guard_eq (grid.source.resolve_restores .builtins)
      subst restored
      have left := asks.of_always (query_always inductionHypothesis)
      exact Nat.le_trans (need_enter_le enters.content enters.free) left

theorem ending_ne_tooDeep {room : Nat} (enough : grid.need guard formula ≤ room) :
    grid.source.ending .builtins ⟨room, guard, formula⟩ ≠ .ok (.error .tooDeep) := by
  intro deep
  exact (query_always enough).ending deep rfl

theorem result_eq_of_need {room room' : Nat} (enough : grid.need guard formula ≤ room)
    (enough' : grid.need guard formula ≤ room') :
    grid.source.result .builtins ⟨room, guard, formula⟩ =
      grid.source.result .builtins ⟨room', guard, formula⟩ := by
  induction remaining : grid.free guard using Nat.strongRecOn
    generalizing guard formula room room' with
  | ind remaining inductionHypothesis =>
      have runs : ((Registry.builtins.query room formula).run
            (grid.source.resolve .builtins)).run guard =
          ((Registry.builtins.query room' formula).run
            (grid.source.resolve .builtins)).run guard := by
        apply (query_roomy enough enough').run_eq (grid.source.resolve_restores .builtins) id
        · intro failure other related
          exact related.1
        rintro room name room' _ ⟨rfl, left, left'⟩
        rcases grid.source.answer_cases guard name with
          ⟨c, formula, enters⟩ | ⟨value, answered⟩ | ⟨_, escaped⟩
        · have fewer := grid.free_enter_lt enters.content enters.free
          have needed := grid.need_enter_le enters.content enters.free
          rw [Source.run_resolve_of_enters Registry.builtins_pure _ enters,
            Source.run_resolve_of_enters Registry.builtins_pure _ enters,
            ← Source.result_eq, ← Source.result_eq,
            inductionHypothesis _ (remaining ▸ fewer) (Nat.le_trans needed left)
              (Nat.le_trans needed left') rfl]
        · rw [Source.resolve_eq Registry.builtins_pure,
            Source.resolve_eq Registry.builtins_pure, answered, answered]
        · rw [Source.resolve_eq Registry.builtins_pure,
            Source.resolve_eq Registry.builtins_pure, escaped, escaped]
      simp only [Source.result, Source.ending, runs]

/-- More room than the bound makes no difference. -/
theorem value_eq_of_bound {room room' : Nat} (enough : grid.nestingBound origin ≤ room)
    (enough' : grid.nestingBound origin ≤ room') :
    grid.source.value .builtins room origin = grid.source.value .builtins room' origin := by
  rcases Source.value_cases Registry.builtins_pure grid.source origin with
    ⟨_, _, _, begins⟩ | ⟨value, valued⟩ | ⟨_, _, _, -, -, escaped⟩
  · have needed := need_le_of_begins begins
    rw [Source.value_of_begins Registry.builtins_pure begins,
      Source.value_of_begins Registry.builtins_pure begins]
    exact result_eq_of_need (Nat.le_trans needed enough) (Nat.le_trans needed enough')
  · rw [valued, valued]
  · rw [escaped, escaped]

/-- Evaluation ends by itself on every grid, with whatever it begins.  The cells
entered are different formula cells that were free before, so no more formulas
are nested than the grid has; inside a formula only shorter texts are evaluated,
and what is read is no wider than the text.  Hence in as much room as the number
and the greatest length of the formulas bound, nothing is nested too deeply, and
the value depends on the room no longer. -/
theorem nesting_bounded (grid : Grid) (origin : Origin) :
    (∀ room chain evaluation,
      grid.source.Nested .builtins room origin chain evaluation →
        chain.Nodup ∧
        (∀ c ∈ chain, c ∈ grid.formulaCells ∧ origin.guard.contains c = false) ∧
        (∀ c, evaluation.guard.contains c = true ↔
          c ∈ chain ∨ origin.guard.contains c = true) ∧
        chain.length ≤ grid.formulaCells.length) ∧
    (∀ text, Registry.builtins.TakesShorter text ∧
      (Formula.ofText text).width ≤ text.length) ∧
    ∀ room, grid.nestingBound origin ≤ room →
      (∀ chain evaluation, grid.source.Nested .builtins room origin chain evaluation →
        grid.source.ending .builtins evaluation ≠ .ok (.error .tooDeep)) ∧
      grid.source.value .builtins room origin =
        grid.source.value .builtins (grid.nestingBound origin) origin := by
  constructor
  · intro room chain evaluation nested
    have entered := nested.entered
    constructor
    · exact entered.nodup
    constructor
    · intro c member
      obtain ⟨formula, content⟩ := entered.formula c member
      exact ⟨mem_formulaCells content, entered.free c member⟩
    · exact ⟨entered.contains_iff, length_le_of_entered entered⟩
  constructor
  · intro text
    exact ⟨Registry.builtins_takesShorter text, Formula.width_ofText_le text⟩
  · intro room enough
    constructor
    · intro chain evaluation nested
      exact ending_ne_tooDeep (need_le_room enough nested)
    · exact value_eq_of_bound enough (Nat.le_refl _)

/-- Two cells that ask for one another. -/
def circle : Grid :=
  { (default : Grid) with
    cells := .ofEntries [(⟨0, 0⟩, "=B1".toList), (⟨0, 1⟩, "=A1".toList)] }

example : circle.evaluateWith .builtins ⟨0, 0⟩ = .ok (.error .cycle) := by
  decide +kernel

/-- From one of the two cells on there are at most two formulas inside one another,
and ever more room gives one value. -/
theorem nesting_bounded_circle :
    circle.source.Nested .builtins 50 (.cell ⟨0, 0⟩) [⟨0, 0⟩]
        ⟨50, Guard.empty.enter ⟨0, 0⟩, "B1".toList⟩ ∧
      [(⟨0, 0⟩ : Coord)].length ≤ circle.formulaCells.length ∧
      circle.source.value .builtins 50 (.cell ⟨0, 0⟩) =
        circle.source.value .builtins (circle.nestingBound (.cell ⟨0, 0⟩)) (.cell ⟨0, 0⟩) := by
  have nested : circle.source.Nested .builtins 50 (.cell ⟨0, 0⟩) [⟨0, 0⟩]
      ⟨50, Guard.empty.enter ⟨0, 0⟩, "B1".toList⟩ := .first (.cell rfl)
  obtain ⟨chains, -, enough⟩ := nesting_bounded circle (.cell ⟨0, 0⟩)
  constructor
  · exact nested
  constructor
  · exact (chains 50 _ _ nested).2.2.2
  · exact (enough 50 (by decide +kernel)).2

end Grid

end Spreadsheet
