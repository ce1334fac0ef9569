import Spreadsheet.Proofs.Formula.Reading
import Spreadsheet.Proofs.Function.Kind
import Spreadsheet.Proofs.Grid.Nesting

/-!
# What escapes from evaluation

With the built-in functions every failure inside a formula becomes an error code,
but for one: a row number with too many digits to be read.  It escapes from every
evaluation that it is met in, however deep that is nested.  Only a text with too
many digits can meet one, so a grid without such formulas has a value in every
cell.
-/

namespace Spreadsheet

namespace Source

variable {source : Source} {room : Nat} {origin : Origin} {chain : List Coord}
  {evaluation : Evaluation}

/-- The evaluation itself comes upon a row number that is too long, in a reference
that it asks for or in the corner of a range. -/
def MeetsLongRow (source : Source) (functions : Registry) (evaluation : Evaluation) : Prop :=
  (∃ rest name guard fault,
    (functions.query evaluation.room evaluation.formula).Asks (source.resolve functions)
      evaluation.guard rest name guard ∧ Coord.decode name = .error fault) ∨
    source.ending functions evaluation = .ok (.error (.escape .rowTooLong))

/-- A row number that is too long is met somewhere from the origin on. -/
inductive LongRow (source : Source) (functions : Registry) (room : Nat) : Origin → Prop where
  | reference {guard : Guard} {name : Text} {fault : AddressError}
      (decodes : Coord.decode name = .error fault) :
      LongRow source functions room (.reference guard name)
  | evaluation {origin : Origin} {chain : List Coord} {evaluation : Evaluation}
      (nested : source.Nested functions room origin chain evaluation)
      (meets : source.MeetsLongRow functions evaluation) :
      LongRow source functions room origin

theorem result_eq_error_iff (source : Source) (functions : Registry)
    (evaluation : Evaluation) (escape : Escape) :
    source.result functions evaluation = .error escape ↔
      source.ending functions evaluation = .error escape ∨
        source.ending functions evaluation = .ok (.error (.escape escape)) := by
  rw [result]
  constructor
  · intro escapes
    cases ends : source.ending functions evaluation with
    | error other =>
        rw [ends] at escapes
        cases escapes
        exact .inl rfl
    | ok ending =>
        rw [ends] at escapes
        rcases ending with failure | number
        · cases failure <;> cases escapes
          exact .inr rfl
        · cases escapes
  · rintro (ends | ends)
    · rw [ends]
      rfl
    · rw [ends]
      rfl

/-- An escape goes through every evaluation around it. -/
theorem Nested.value_eq_error {functions : Registry} (pure : functions.Pure)
    (nested : source.Nested functions room origin chain evaluation) {escape : Escape}
    (escapes : source.result functions evaluation = .error escape) :
    source.value functions room origin = .error escape := by
  induction nested with
  | first begins => exact (value_of_begins pure begins room).trans escapes
  | @deeper chain evaluation rest name formula guard c _ asks enters inductionHypothesis =>
      apply inductionHypothesis
      apply (source.result_eq_error_iff functions evaluation escape).mpr
      apply Or.inl
      apply Query.run_eq_error_iff.mpr
      exact ⟨rest, name, guard, asks, (resolve_of_enters pure enters rest).trans escapes⟩

/-- Where a row number that is too long is met, it escapes. -/
theorem MeetsLongRow.result_eq_error {functions : Registry} (pure : functions.Pure)
    (meets : source.MeetsLongRow functions evaluation) :
    source.result functions evaluation = .error .rowTooLong := by
  apply (source.result_eq_error_iff functions evaluation .rowTooLong).mpr
  rcases meets with ⟨rest, name, guard, fault, asks, decodes⟩ | ends
  · apply Or.inl
    apply Query.run_eq_error_iff.mpr
    refine ⟨rest, name, guard, asks, ?_⟩
    rw [resolve_eq pure, run_answer, decodes]
  · exact .inr ends

/-- What escapes with the built-in functions has been met in some evaluation. -/
theorem Nested.longRow
    (nested : source.Nested .builtins room origin chain evaluation) {escape : Escape}
    (escapes : source.result .builtins evaluation = .error escape) :
    escape = .rowTooLong ∧ source.LongRow .builtins room origin := by
  have pure := Registry.builtins_pure
  induction left : evaluation.room using Nat.strongRecOn generalizing chain evaluation with
  | ind _ inductionHypothesis =>
      subst left
      rcases (source.result_eq_error_iff .builtins evaluation escape).mp escapes with
        answered | ends
      · obtain ⟨rest, name, guard, asks, answered⟩ := Query.run_eq_error_iff.mp answered
        rcases source.answer_cases guard name with
          ⟨c, formula, enters⟩ | ⟨value, valued⟩ | ⟨⟨fault, decodes⟩, escaped⟩
        · rw [resolve_of_enters pure enters] at answered
          exact inductionHypothesis rest (asks.of_always (Registry.query_below pure _ _))
            (nested.deeper asks enters) answered rfl
        · rw [resolve_eq pure, valued] at answered
          cases answered
        · rw [resolve_eq pure, escaped] at answered
          cases answered
          exact ⟨rfl, .evaluation nested (.inl ⟨rest, name, guard, fault, asks, decodes⟩)⟩
      · have whole := (Registry.kind_all.query_always evaluation.room trivial).ending ends
        cases escape with
        | rowTooLong => exact ⟨rfl, .evaluation nested (.inr ends)⟩
        | hostBreakdown message => exact absurd rfl (whole message)

/-- A formula that is nothing but a reference meets its row number. -/
theorem meetsLongRow_of_reference (source : Source) (functions : Registry) (guard : Guard)
    (column : Letters) {row : Digits} (long : Text.digitLimit < row.text.length)
    (enough : Nesting.formula + (Nesting.reference + Nesting.lookup) ≤ room) :
    source.MeetsLongRow functions ⟨room, guard, column.text ++ row.text⟩ := by
  have writes : (Expression.reference column row).Writes (column.text ++ row.text) :=
    Expression.writes_of_renders (.reference column row)
  have shares : Nesting.formula ≤ room ∧ Nesting.reference ≤ room - Nesting.formula ∧
      Nesting.lookup ≤ room - Nesting.formula - Nesting.reference := by
    omega
  have query : functions.query room (column.text ++ row.text) =
      .ask (room - Nesting.formula - Nesting.reference - Nesting.lookup)
        (column.text ++ row.text) Query.number := by
    rw [Registry.query, Query.within_of_le shares.1, Registry.expression,
      Registry.evaluate_succ, Formula.ofText_of_writes writes, Expression.formula,
      Formula.evaluate, Query.within_of_le shares.2.1, Query.request,
      Query.within_of_le shares.2.2]
    rfl
  have asks : (functions.query room (column.text ++ row.text)).Asks
      (source.resolve functions) guard
      (room - Nesting.formula - Nesting.reference - Nesting.lookup)
      (column.text ++ row.text) guard := by
    rw [query]
    exact .now _ _ _ _
  have decodes := Coord.decode_of_digitLimit_lt column.nonempty column.all row.all long
  exact .inl ⟨_, _, _, _, asks, decodes⟩

/-- Only a formula with too many digits meets a row number that is too long. -/
theorem MeetsLongRow.digitLimit_lt (meets : source.MeetsLongRow .builtins evaluation) :
    Text.digitLimit < evaluation.formula.countP Text.isDigit := by
  apply Nat.lt_of_not_le
  intro few
  have always := Registry.kind_legible.query_always evaluation.room few
  rcases meets with ⟨rest, name, guard, fault, asks, decodes⟩ | ends
  · exact asks.of_always always fault decodes
  · exact always.ending ends .rowTooLong rfl

/-- A formula under evaluation is that of a cell or the text of the origin. -/
theorem Nested.formula_origin {functions : Registry}
    (nested : source.Nested functions room origin chain evaluation) :
    (∃ c, Content.ofText (source.text c) = .formula evaluation.formula) ∨
      ∃ guard, origin = .text guard evaluation.formula := by
  cases nested with
  | first begins =>
      cases begins with
      | text => exact .inr ⟨_, rfl⟩
      | cell content => exact .inl ⟨_, content⟩
      | reference enters => exact .inl ⟨_, enters.content⟩
  | deeper _ _ enters => exact .inl ⟨_, enters.content⟩

/-- From an origin on there is a value, or a row number that is too long is met
and escapes. -/
theorem value_or_longRow (source : Source) (room : Nat) (origin : Origin) :
    (∃ value, source.value .builtins room origin = .ok value) ∧
        ¬ source.LongRow .builtins room origin ∨
      source.value .builtins room origin = .error .rowTooLong ∧
        source.LongRow .builtins room origin := by
  have pure := Registry.builtins_pure
  have escapes : source.LongRow .builtins room origin →
      source.value .builtins room origin = .error .rowTooLong := by
    intro long
    cases long with
    | reference decodes => simp only [value, resolve_eq pure, run_answer, decodes]
    | evaluation nested meets => exact nested.value_eq_error pure (meets.result_eq_error pure)
  cases valued : source.value .builtins room origin with
  | ok value =>
      apply Or.inl
      constructor
      · exact ⟨value, rfl⟩
      · intro long
        cases valued.symm.trans (escapes long)
  | error escape =>
      apply Or.inr
      rcases value_cases pure source origin with
        ⟨chain, guard, formula, begins⟩ | ⟨value, known⟩ | ⟨guard, name, fault, rfl, decodes, long⟩
      · rw [value_of_begins pure begins] at valued
        obtain ⟨rfl, long⟩ := Nested.longRow (.first begins) valued
        exact ⟨rfl, long⟩
      · cases valued.symm.trans (known room)
      · cases valued.symm.trans (long room)
        exact ⟨rfl, .reference decodes⟩

/-- A cell that has a value shows a text, -/
theorem exists_display {functions : Registry} {c : Coord} {value : CellValue}
    (valued : source.evaluateCell functions room c = .ok value) :
    ∃ text, source.display functions room c = .ok text := by
  rw [display]
  cases Content.ofText (source.text c) with
  | formula formula =>
      rw [valued]
      exact ⟨value.display, rfl⟩
  | empty => exact ⟨_, rfl⟩
  | literal text => exact ⟨_, rfl⟩

/-- and what escapes from its value escapes from what it shows. -/
theorem display_eq_error {functions : Registry} {c : Coord} {escape : Escape}
    (escaped : source.evaluateCell functions room c = .error escape) :
    source.display functions room c = .error escape := by
  rw [display]
  cases content : Content.ofText (source.text c) with
  | formula formula =>
      rw [escaped]
      rfl
  | empty =>
      rw [evaluateCell, content] at escaped
      cases escaped
  | literal text =>
      rw [evaluateCell, content] at escaped
      cases escaped

end Source

namespace Grid

/-- With the built-in functions every cell has a value and shows a text, and every
expression and reference has a value, exactly unless a row number that is too long
is met.  A reference to such a row is a formula that meets it; and where one is
met, the expression, the reference or a formula of the grid has too many digits. -/
theorem value_unless_longRow (grid : Grid) :
    (∀ room origin,
      (∃ value, grid.source.value .builtins room origin = .ok value) ∧
          ¬ grid.source.LongRow .builtins room origin ∨
        grid.source.value .builtins room origin = .error .rowTooLong ∧
          grid.source.LongRow .builtins room origin) ∧
    (∀ c,
      (∃ value text, grid.evaluateWith .builtins c = .ok value ∧
          grid.displayWith .builtins c = .ok text) ∧
          ¬ grid.source.LongRow .builtins Nesting.cellAllowance (.cell c) ∨
        grid.evaluateWith .builtins c = .error .rowTooLong ∧
          grid.displayWith .builtins c = .error .rowTooLong ∧
          grid.source.LongRow .builtins Nesting.cellAllowance (.cell c)) ∧
    (∀ c (column : Letters) (row : Digits),
      Content.ofText (grid.text c) = .formula (column.text ++ row.text) →
        Text.digitLimit < row.text.length →
          grid.source.LongRow .builtins Nesting.cellAllowance (.cell c)) ∧
    ∀ room origin, grid.source.LongRow .builtins room origin →
      (∃ guard name, origin = .reference guard name ∧
          Text.digitLimit < name.countP Text.isDigit) ∨
        (∃ guard text, origin = .text guard text ∧
          Text.digitLimit < text.countP Text.isDigit) ∨
        ∃ entry ∈ grid.formulas, Text.digitLimit < entry.2.countP Text.isDigit := by
  constructor
  · exact grid.source.value_or_longRow
  constructor
  · intro c
    rcases grid.source.value_or_longRow Nesting.cellAllowance (.cell c) with
      ⟨⟨value, valued⟩, short⟩ | ⟨escaped, long⟩
    · obtain ⟨text, shown⟩ := Source.exists_display valued
      exact .inl ⟨⟨value, text, valued, shown⟩, short⟩
    · exact .inr ⟨escaped, Source.display_eq_error escaped, long⟩
  constructor
  · intro c column row content long
    apply Source.LongRow.evaluation (.first (.cell content))
    exact grid.source.meetsLongRow_of_reference .builtins _ column long (by decide)
  · intro room origin long
    cases long with
    | reference decodes => exact .inl ⟨_, _, rfl, Coord.digitLimit_lt_of_decode decodes⟩
    | evaluation nested meets =>
        have many := meets.digitLimit_lt
        rcases nested.formula_origin with ⟨c, content⟩ | ⟨guard, rfl⟩
        · exact .inr (.inr ⟨_, mem_formulas content, many⟩)
        · exact .inr (.inl ⟨guard, _, rfl, many⟩)

/-- The digits of a row that is too long. -/
def longRow : Digits where
  text := List.replicate (Text.digitLimit + 1) '1'
  nonempty := List.cons_ne_nil _ _
  all := List.all_eq_true.mpr fun _ member => List.eq_of_mem_replicate member ▸ rfl

/-- One cell, which asks for a cell in a row that is too long. -/
def longReference : Grid :=
  { (default : Grid) with cells := .ofEntries [(⟨0, 0⟩, '=' :: 'A' :: longRow.text)] }

/-- What the cell shows is an escape. -/
theorem value_unless_longRow_longReference :
    longReference.displayWith .builtins ⟨0, 0⟩ = .error .rowTooLong ∧
      ∃ entry ∈ longReference.formulas, Text.digitLimit < entry.2.countP Text.isDigit := by
  obtain ⟨-, shown, reference, digits⟩ := longReference.value_unless_longRow
  have long : longReference.source.LongRow .builtins Nesting.cellAllowance (.cell ⟨0, 0⟩) :=
    reference ⟨0, 0⟩ ⟨['A'], List.cons_ne_nil _ _, rfl⟩ longRow rfl
      (Nat.lt_of_lt_of_eq (Nat.lt_succ_self _) List.length_replicate.symm)
  constructor
  · rcases shown ⟨0, 0⟩ with ⟨-, short⟩ | ⟨-, escaped, -⟩
    · exact absurd long short
    · exact escaped
  · rcases digits _ _ long with ⟨_, _, impossible, -⟩ | ⟨_, _, impossible, -⟩ | stored
    · cases impossible
    · cases impossible
    · exact stored

end Grid

end Spreadsheet
