import Spreadsheet.Proofs.Grid.Resolution

/-!
# Evaluations inside evaluations

An evaluation begins with a text of its own, with a cell or with a reference.
While it asks for a cell with a formula, the evaluation of that formula is nested
in it, and so on.  `Source.Nested` describes every evaluation that is ever under
way, by the cells entered since the beginning, the last one first.  The cells of
such a chain are different from one another and from those held before, and the
guard holds them and no others besides.
-/

namespace Spreadsheet

/-- What an evaluation begins with, and the guard that is in force then. -/
inductive Origin where
  | text (guard : Guard) (text : Text)
  | cell (c : Coord)
  | reference (guard : Guard) (name : Text)

/-- The guard before anything is evaluated. -/
def Origin.guard : Origin → Guard
  | text guard _ => guard
  | cell _ => .empty
  | reference guard _ => guard

/-- An evaluation of a formula that is under way: the room it has, the guard, and
its text. -/
structure Evaluation where
  room : Nat
  guard : Guard
  formula : Text

namespace Source

variable {source : Source} {functions : Registry} {room : Nat} {origin : Origin}
  {chain : List Coord} {evaluation : Evaluation} {guard : Guard} {formula name : Text}
  {c : Coord}

/-- The value from an origin on. -/
def value (source : Source) (functions : Registry) (room : Nat) :
    Origin → Except Escape CellValue
  | .text guard text =>
      ((evaluateFormula functions room (source.resolve functions) text).run guard).1
  | .cell c => source.evaluateCell functions room c
  | .reference guard name => ((source.resolve functions room name).run guard).1

/-- The formula that is evaluated first, the cell entered for it if any, and the
guard then. -/
inductive Begins (source : Source) : Origin → List Coord → Guard → Text → Prop where
  | text (guard : Guard) (text : Text) : Begins source (.text guard text) [] guard text
  | cell {c : Coord} {formula : Text}
      (content : Content.ofText (source.text c) = .formula formula) :
      Begins source (.cell c) [c] (Guard.empty.enter c) formula
  | reference {guard : Guard} {name formula : Text} {c : Coord}
      (enters : source.Enters guard name c formula) :
      Begins source (.reference guard name) [c] (guard.enter c) formula

/-- The evaluations under way from an origin on, each with the cells that have
been entered. -/
inductive Nested (source : Source) (functions : Registry) (room : Nat) (origin : Origin) :
    List Coord → Evaluation → Prop where
  | first {chain : List Coord} {guard : Guard} {formula : Text}
      (begins : source.Begins origin chain guard formula) :
      Nested source functions room origin chain ⟨room, guard, formula⟩
  | deeper {chain : List Coord} {evaluation : Evaluation} {rest : Nat}
      {name formula : Text} {guard : Guard} {c : Coord}
      (nested : Nested source functions room origin chain evaluation)
      (asks : (functions.query evaluation.room evaluation.formula).Asks
        (source.resolve functions) evaluation.guard rest name guard)
      (enters : source.Enters guard name c formula) :
      Nested source functions room origin (c :: chain) ⟨rest, guard.enter c, formula⟩

/-! ## The chain of entered cells -/

/-- The cells of a chain have been entered since the guard was `before`. -/
structure Entered (source : Source) (before : Guard) (chain : List Coord) (guard : Guard) :
    Prop where
  nodup : chain.Nodup
  free : ∀ c ∈ chain, before.contains c = false
  formula : ∀ c ∈ chain, ∃ formula, Content.ofText (source.text c) = .formula formula
  contains_iff : ∀ c, guard.contains c = true ↔ c ∈ chain ∨ before.contains c = true

theorem Entered.none (source : Source) (guard : Guard) : source.Entered guard [] guard where
  nodup := .nil
  free := nofun
  formula := nofun
  contains_iff c := by simp

theorem Entered.enter {before : Guard} (entered : source.Entered before chain guard)
    (free : guard.contains c = false)
    (content : Content.ofText (source.text c) = .formula formula) :
    source.Entered before (c :: chain) (guard.enter c) := by
  have outside : ¬ (c ∈ chain ∨ before.contains c = true) := by
    rw [← entered.contains_iff, free]
    exact Bool.false_ne_true
  constructor
  · exact List.nodup_cons.mpr ⟨fun member => outside (.inl member), entered.nodup⟩
  · intro d member
    rcases List.mem_cons.mp member with rfl | earlier
    · exact Bool.eq_false_iff.mpr fun held => outside (.inr held)
    · exact entered.free d earlier
  · intro d member
    rcases List.mem_cons.mp member with rfl | earlier
    · exact ⟨formula, content⟩
    · exact entered.formula d earlier
  · intro d
    rw [Guard.contains_enter, entered.contains_iff, List.mem_cons, or_assoc]

theorem Begins.entered (begins : source.Begins origin chain guard formula) :
    source.Entered origin.guard chain guard := by
  cases begins with
  | text guard text => exact .none source guard
  | cell content => exact (Entered.none source .empty).enter (Guard.not_contains_empty _) content
  | reference enters => exact (Entered.none source _).enter enters.free enters.content

/-- Every chain consists of cells entered since the beginning. -/
theorem Nested.entered (nested : source.Nested functions room origin chain evaluation) :
    source.Entered origin.guard chain evaluation.guard := by
  induction nested with
  | first begins => exact begins.entered
  | deeper _ asks enters inductionHypothesis =>
      have restored := asks.guard_eq (source.resolve_restores functions)
      subst restored
      exact inductionHypothesis.enter enters.free enters.content

/-! ## Values and the evaluations that give them -/

/-- How an evaluation ends. -/
def ending (source : Source) (functions : Registry) (evaluation : Evaluation) :
    Except Escape (Except Failure Number) :=
  (((functions.query evaluation.room evaluation.formula).run (source.resolve functions)).run
    evaluation.guard).1

/-- The value of the formula that is evaluated. -/
def result (source : Source) (functions : Registry) (evaluation : Evaluation) :
    Except Escape CellValue :=
  source.ending functions evaluation >>= CellValue.ofOutcome

theorem result_eq (source : Source) (functions : Registry) (room : Nat) (guard : Guard)
    (formula : Text) :
    source.result functions ⟨room, guard, formula⟩ =
      ((evaluateFormula functions room (source.resolve functions) formula).run guard).1 := by
  rw [run_evaluateFormula]
  rfl

section Pure

variable (pure : functions.Pure)

include pure

/-- A reference into a formula cell has the value of the evaluation nested
there. -/
theorem resolve_of_enters (enters : source.Enters guard name c formula) (room : Nat) :
    ((source.resolve functions room name).run guard).1 =
      source.result functions ⟨room, guard.enter c, formula⟩ := by
  rw [run_resolve_of_enters pure room enters, result_eq]

/-- The value from an origin is that of the formula evaluated first. -/
theorem value_of_begins (begins : source.Begins origin chain guard formula) (room : Nat) :
    source.value functions room origin = source.result functions ⟨room, guard, formula⟩ := by
  cases begins with
  | text guard text => rw [value, result_eq]
  | cell content => rw [value, evaluateCell_eq pure source room content, result_eq]
  | reference enters => exact resolve_of_enters pure enters room

/-- Where no formula is evaluated, the value is there at once, unless the origin
is a reference that cannot be read. -/
theorem value_cases (source : Source) (origin : Origin) :
    (∃ chain guard formula, source.Begins origin chain guard formula) ∨
      (∃ value, ∀ room, source.value functions room origin = .ok value) ∨
        ∃ guard name fault, origin = .reference guard name ∧
          Coord.decode name = .error fault ∧
            ∀ room, source.value functions room origin = .error .rowTooLong := by
  cases origin with
  | text guard text => exact .inl ⟨_, _, _, .text guard text⟩
  | cell c =>
      simp only [value, evaluateCell]
      cases content : Content.ofText (source.text c) with
      | formula formula => exact .inl ⟨_, _, _, .cell content⟩
      | empty => exact .inr (.inl ⟨_, fun _ => rfl⟩)
      | literal text => exact .inr (.inl ⟨_, fun _ => rfl⟩)
  | reference guard name =>
      simp only [value, resolve_eq pure]
      rcases source.answer_cases guard name with
        ⟨c, formula, enters⟩ | ⟨value, answered⟩ | ⟨⟨fault, decodes⟩, escaped⟩
      · exact .inl ⟨_, _, _, .reference enters⟩
      · exact .inr (.inl ⟨value, fun _ => by rw [answered]⟩)
      · exact .inr (.inr ⟨guard, name, fault, rfl, decodes, fun _ => by rw [escaped]⟩)

end Pure

end Source

end Spreadsheet
