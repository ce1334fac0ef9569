import Mathlib.Logic.Relation
import Spreadsheet.Proofs.Grid.Nesting

/-!
# Resolving a reference step by step

Resolving a reference goes from one moment to the next: a reference is looked up,
a formula cell is entered, its evaluation asks for another reference or ends, and
an escape leaves one evaluation after the other.  At every moment the guard holds
the cells of the formulas that are under evaluation then, each entered once, and
what it held before the first step.  Followed to the end, the steps give the
answer, or the escape, and the guard of resolving the reference at once.

Functions have no part in this but to ask for cells: a `Call` does not give them the
guard.
-/

namespace Spreadsheet

/-- The formula of a cell that waits for the answer to a reference. -/
structure Suspended where
  cell : Coord
  links : Nat
  next : CellValue → Query Number

/-- What is done at one moment. -/
inductive Activity where
  /-- A reference is to be resolved. -/
  | resolve (links room : Nat) (name : Text)
  /-- The formula of a cell is evaluated. -/
  | evaluate (cell : Coord) (links : Nat) (query : Query Number)
  /-- A reference has been resolved, or an escape has left it. -/
  | done (ending : Except Escape CellValue)

/-- The cells that the activity itself has entered. -/
def Activity.cells : Activity → List Coord
  | resolve _ _ _ => []
  | evaluate cell _ _ => [cell]
  | done _ => []

/-- A moment of resolving a reference: the guard, the formulas that wait, the
innermost first, and what is done. -/
structure Moment where
  guard : Guard
  suspended : List Suspended
  activity : Activity

namespace Moment

/-- The cells whose formulas are under evaluation, the innermost first. -/
def chain (moment : Moment) : List Coord :=
  moment.activity.cells ++ moment.suspended.map Suspended.cell

/-- The moment before the first step. -/
def start (room : Nat) (name : Text) (guard : Guard) : Moment :=
  ⟨guard, [], .resolve (room + 1) room name⟩

/-- The moment after the last step. -/
def finish (ending : Except Escape CellValue × Guard) : Moment :=
  ⟨ending.2, [], .done ending.1⟩

end Moment

namespace Source

variable {source : Source} {functions : Registry} {guard before : Guard} {chain : List Coord}
  {suspended : List Suspended} {links room : Nat} {name formula : Text} {c : Coord}
  {moment after : Moment}

/-- What is done about a reference: it is answered, or its formula cell is
entered. -/
def lookUp (source : Source) (functions : Registry) (guard : Guard)
    (suspended : List Suspended) (links room : Nat) (name : Text) : Moment :=
  match Coord.decode name with
  | .error _ => ⟨guard, suspended, .done (.error .rowTooLong)⟩
  | .ok none => ⟨guard, suspended, .done (.ok (.error .ref))⟩
  | .ok (some c) =>
      if source.holds c = false then ⟨guard, suspended, .done (.ok (.error .ref))⟩
      else if guard.contains c = true then ⟨guard, suspended, .done (.ok (.error .cycle))⟩
      else
        match Content.ofText (source.text c), links with
        | .empty, _ => ⟨guard, suspended, .done (.ok (.number (.zero false)))⟩
        | .literal text, _ => ⟨guard, suspended, .done (.ok (.ofLiteral text))⟩
        | .formula _, 0 => ⟨guard, suspended, .done (.ok (.error .err))⟩
        | .formula text, links + 1 =>
            ⟨guard.enter c, suspended, .evaluate c links (functions.query room text)⟩

/-- The next moment, unless this is the last one. -/
def step (source : Source) (functions : Registry) : Moment → Option Moment
  | ⟨guard, suspended, .resolve links room name⟩ =>
      some (source.lookUp functions guard suspended links room name)
  | ⟨guard, suspended, .evaluate c links (.ask room name next)⟩ =>
      some ⟨guard, ⟨c, links, next⟩ :: suspended, .resolve links room name⟩
  | ⟨guard, suspended, .evaluate c _ (.done result)⟩ =>
      some ⟨guard.leave c, suspended, .done (CellValue.ofOutcome (.ok result))⟩
  | ⟨guard, suspended, .evaluate c _ (.fail failure)⟩ =>
      some ⟨guard.leave c, suspended, .done (CellValue.ofOutcome (.error failure))⟩
  | ⟨guard, waiting :: suspended, .done (.ok answer)⟩ =>
      some ⟨guard, suspended, .evaluate waiting.cell waiting.links (waiting.next answer)⟩
  | ⟨guard, waiting :: suspended, .done (.error escape)⟩ =>
      some ⟨guard.leave waiting.cell, suspended, .done (.error escape)⟩
  | ⟨_, [], .done _⟩ => none

/-- Steps lead from one moment to the other. -/
def Leads (source : Source) (functions : Registry) : Moment → Moment → Prop :=
  Relation.ReflTransGen fun moment after => source.step functions moment = some after

/-! ## The guard at every moment -/

theorem Entered.leave (entered : source.Entered before (c :: chain) guard) :
    source.Entered before chain (guard.leave c) := by
  have single := List.nodup_cons.mp entered.nodup
  constructor
  · exact single.2
  · exact fun d member => entered.free d (List.mem_cons_of_mem c member)
  · exact fun d member => entered.formula d (List.mem_cons_of_mem c member)
  · intro d
    rw [Guard.contains_leave, entered.contains_iff, List.mem_cons]
    constructor
    · rintro ⟨different, (same | inside) | held⟩
      · exact absurd same different
      · exact .inl inside
      · exact .inr held
    · rintro (inside | held)
      · exact ⟨fun same => single.1 (same ▸ inside), .inl (.inr inside)⟩
      · refine ⟨?_, .inr held⟩
        rintro rfl
        exact Bool.false_ne_true ((entered.free d List.mem_cons_self).symm.trans held)

/-- A reference that leads into a formula cell enters it, or is given up where no
more links can be followed. -/
theorem lookUp_of_enters (enters : source.Enters guard name c formula) :
    source.lookUp functions guard suspended links room name =
      match links with
      | 0 => ⟨guard, suspended, .done (.ok (.error .err))⟩
      | links + 1 =>
          ⟨guard.enter c, suspended, .evaluate c links (functions.query room formula)⟩ := by
  simp only [lookUp, enters.decodes, enters.holds, enters.free, enters.content,
    Bool.true_eq_false, Bool.false_eq_true, if_false]
  cases links <;> rfl

/-- Any other reference has its answer at once. -/
theorem lookUp_cases (source : Source) (functions : Registry) (guard : Guard)
    (suspended : List Suspended) (links room : Nat) (name : Text) :
    (∃ c formula, source.Enters guard name c formula) ∨
      ∃ ending, (∀ evaluate, (source.answer evaluate name).run guard = (ending, guard)) ∧
        source.lookUp functions guard suspended links room name =
          ⟨guard, suspended, .done ending⟩ := by
  simp only [run_answer, lookUp]
  cases decodes : Coord.decode name with
  | error fault => exact .inr ⟨_, fun _ => rfl, rfl⟩
  | ok named =>
      cases named with
      | none => exact .inr ⟨_, fun _ => rfl, rfl⟩
      | some c =>
          dsimp only
          cases holds : source.holds c with
          | false => exact .inr ⟨_, fun _ => rfl, rfl⟩
          | true =>
              cases free : guard.contains c with
              | true => exact .inr ⟨_, fun _ => rfl, rfl⟩
              | false =>
                  cases content : Content.ofText (source.text c) with
                  | empty => exact .inr ⟨_, fun _ => rfl, rfl⟩
                  | literal literal => exact .inr ⟨_, fun _ => rfl, rfl⟩
                  | formula formula =>
                      exact .inl ⟨c, formula, decodes, holds, free, content⟩

/-- A reference enters one free formula cell or none. -/
theorem lookUp_entered
    (entered : source.Entered before (suspended.map Suspended.cell) guard) :
    source.Entered before (source.lookUp functions guard suspended links room name).chain
      (source.lookUp functions guard suspended links room name).guard := by
  rcases source.lookUp_cases functions guard suspended links room name with
    ⟨c, formula, enters⟩ | ⟨ending, -, answered⟩
  · rw [lookUp_of_enters enters]
    cases links with
    | zero => exact entered
    | succ links => exact entered.enter enters.free enters.content
  · rw [answered]
    exact entered

/-- A step enters one free formula cell, or leaves the one entered last, or
neither. -/
theorem step_entered (entered : source.Entered before moment.chain moment.guard)
    (steps : source.step functions moment = some after) :
    source.Entered before after.chain after.guard := by
  obtain ⟨guard, suspended, activity⟩ := moment
  cases activity with
  | resolve links room name =>
      cases steps
      exact lookUp_entered entered
  | evaluate c links query =>
      cases query with
      | ask room name next =>
          cases steps
          exact entered
      | done result =>
          cases steps
          exact entered.leave
      | fail failure =>
          cases steps
          exact entered.leave
  | done ending =>
      rcases suspended with - | ⟨waiting, suspended⟩
      · cases ending <;> cases steps
      · cases ending with
        | ok answer =>
            cases steps
            exact entered
        | error escape =>
            cases steps
            exact entered.leave

/-- However many steps have been taken, the guard holds what it held before them
and the cells under evaluation. -/
theorem Leads.entered (leads : source.Leads functions (.start room name guard) moment) :
    source.Entered guard moment.chain moment.guard := by
  induction leads with
  | refl => exact .none source guard
  | tail _ steps inductionHypothesis => exact step_entered inductionHypothesis steps

/-! ## The end -/

theorem leads_step (steps : source.step functions moment = some after) :
    source.Leads functions moment after :=
  .single steps

/-- An evaluation ends as its conversation does, and then its cell is left. -/
theorem leads_evaluate
    (resolves : ∀ room name guard suspended,
      source.Leads functions ⟨guard, suspended, .resolve links room name⟩
        ⟨((source.follow functions links room name).run guard).2, suspended,
          .done ((source.follow functions links room name).run guard).1⟩)
    (c : Coord) (query : Query Number) (guard : Guard) (suspended : List Suspended) :
    source.Leads functions ⟨guard, suspended, .evaluate c links query⟩
      ⟨((query.run (source.follow functions links)).run guard).2.leave c, suspended,
        .done (((query.run (source.follow functions links)).run guard).1 >>=
          CellValue.ofOutcome)⟩ := by
  induction query generalizing guard with
  | done result => exact leads_step rfl
  | fail failure => exact leads_step rfl
  | ask room name next inductionHypothesis =>
      have asked : source.Leads functions
          ⟨guard, suspended, .evaluate c links (.ask room name next)⟩
          ⟨guard, ⟨c, links, next⟩ :: suspended, .resolve links room name⟩ := leads_step rfl
      have resolved := asked.trans (resolves room name guard (⟨c, links, next⟩ :: suspended))
      rw [Query.run_ask]
      rcases answered : (source.follow functions links room name).run guard with
        ⟨escape | answer, after⟩
      · rw [answered] at resolved
        exact resolved.trans (leads_step rfl)
      · rw [answered] at resolved
        exact (resolved.trans (leads_step rfl)).trans (inductionHypothesis answer after)

/-- Followed to the end, the steps resolve the reference. -/
theorem leads_follow (source : Source) (functions : Registry) (links room : Nat) (name : Text)
    (guard : Guard) (suspended : List Suspended) :
    source.Leads functions ⟨guard, suspended, .resolve links room name⟩
      ⟨((source.follow functions links room name).run guard).2, suspended,
        .done ((source.follow functions links room name).run guard).1⟩ := by
  induction links generalizing room name guard suspended with
  | zero =>
      apply leads_step
      rcases source.lookUp_cases functions guard suspended 0 room name with
        ⟨c, formula, enters⟩ | ⟨ending, answered, looked⟩
      · rw [step, lookUp_of_enters enters, follow, answer_of_enters enters]
        rfl
      · rw [step, looked, follow, answered]
  | succ links inductionHypothesis =>
      have looks : source.step functions ⟨guard, suspended, .resolve (links + 1) room name⟩ =
          some (source.lookUp functions guard suspended (links + 1) room name) := rfl
      rcases source.lookUp_cases functions guard suspended (links + 1) room name with
        ⟨c, formula, enters⟩ | ⟨ending, answered, looked⟩
      · rw [lookUp_of_enters enters] at looks
        apply (leads_step looks).trans
        rw [follow, answer_of_enters enters, Guard.run_during, run_evaluateFormula]
        exact leads_evaluate inductionHypothesis c _ _ suspended
      · rw [looked] at looks
        rw [follow, answered]
        exact leads_step looks

/-- Resolving a reference leaves the guard as it was, whatever the functions do with
their calls and however it ends.  Taken apart into steps, it comes to the same answer or escape
with the same guard, and at every moment on the way the cells under evaluation are
different formula cells that were free before, and the guard holds them and what
it held before and nothing else. -/
theorem guard_restored (source : Source) (functions : Registry) (room : Nat) (name : Text)
    (guard : Guard) :
    ((source.resolve functions room name).run guard).2 = guard ∧
    source.Leads functions (.start room name guard)
      (.finish ((source.resolve functions room name).run guard)) ∧
    ∀ moment, source.Leads functions (.start room name guard) moment →
      moment.chain.Nodup ∧
      (∀ c ∈ moment.chain, guard.contains c = false ∧
        ∃ formula, Content.ofText (source.text c) = .formula formula) ∧
      ∀ c, moment.guard.contains c = true ↔ c ∈ moment.chain ∨ guard.contains c = true := by
  constructor
  · exact source.resolve_restores functions room name guard
  constructor
  · exact source.leads_follow functions (room + 1) room name guard []
  · intro moment leads
    have entered := leads.entered
    exact ⟨entered.nodup, fun c member => ⟨entered.free c member, entered.formula c member⟩,
      entered.contains_iff⟩

end Source

/-- While one of two cells that ask for one another is resolved, there comes a
moment when both are under evaluation. -/
theorem Source.guard_restored_circle :
    ((Grid.circle.source.resolve .builtins 50 "A1".toList).run .empty).2 = .empty ∧
    ∃ moment, Grid.circle.source.Leads .builtins (.start 50 "A1".toList .empty) moment ∧
      moment.chain = [⟨0, 1⟩, ⟨0, 0⟩] ∧ moment.chain.Nodup ∧
      ∀ c, moment.guard.contains c = true ↔
        c ∈ moment.chain ∨ Guard.empty.contains c = true := by
  obtain ⟨restored, -, moments⟩ :=
    guard_restored Grid.circle.source .builtins 50 "A1".toList .empty
  let first : Moment :=
    ⟨Guard.empty.enter ⟨0, 0⟩, [], .evaluate ⟨0, 0⟩ 50 (.ask 40 "B1".toList Query.number)⟩
  let second : Moment :=
    ⟨Guard.empty.enter ⟨0, 0⟩, [⟨⟨0, 0⟩, 50, Query.number⟩], .resolve 50 40 "B1".toList⟩
  let third : Moment :=
    ⟨(Guard.empty.enter ⟨0, 0⟩).enter ⟨0, 1⟩, [⟨⟨0, 0⟩, 50, Query.number⟩],
      .evaluate ⟨0, 1⟩ 49 (.ask 30 "A1".toList Query.number)⟩
  have entersFirst : Grid.circle.source.Leads .builtins (.start 50 "A1".toList .empty) first :=
    leads_step rfl
  have asksSecond : Grid.circle.source.Leads .builtins first second := leads_step rfl
  have entersSecond : Grid.circle.source.Leads .builtins second third := leads_step rfl
  have leads := (entersFirst.trans asksSecond).trans entersSecond
  have invariant := moments third leads
  constructor
  · exact restored
  · exact ⟨third, leads, rfl, invariant.1, invariant.2.2⟩

end Spreadsheet
