import Mathlib.Data.Finset.Card
import Mathlib.Data.List.Induction
import Spreadsheet.Proofs.Grid.Resolution

/-!
# What the guard holds

Coordinates are entered and left like blocks that stand inside one another.  The guard does
not count how often a coordinate has been entered: it holds the coordinates whose last step
was to be entered.  Those are open, but a coordinate that has been entered again inside its
own block is held no longer when the inner block is left, though the outer one is still
open.  Where that does not happen the guard holds what is open.
-/

namespace Spreadsheet

/-- The number of entries is the number of coordinates that have one. -/
theorem CoordMap.size_eq_card {α : Type} {map : CoordMap α} {keys : Finset Coord}
    (same : ∀ c, c ∈ keys ↔ map.contains c = true) : map.size = keys.card := by
  have distinct : (map.entries.map Prod.fst).Nodup := by
    refine List.pairwise_map.mpr (map.ordered.imp ?_)
    intro first second before equal
    exact Coord.not_precedes_self first.1 (equal ▸ before)
  have listed : (map.entries.map Prod.fst).toFinset = keys := by
    ext c
    rw [List.mem_toFinset, same, CoordMap.contains_iff]
    simp
  rw [← listed, List.toFinset_card_of_nodup distinct, List.length_map, size]

namespace Guard

/-- A block for a coordinate is opened, or the one opened last is closed. -/
inductive Step where
  | enter (c : Coord)
  | leave (c : Coord)
  deriving DecidableEq

namespace Step

/-- The coordinate of the block. -/
def coord : Step → Coord
  | enter c => c
  | leave c => c

/-- What the step makes of the guard. -/
def apply (guard : Guard) : Step → Guard
  | enter c => guard.enter c
  | leave c => guard.leave c

theorem contains_apply (guard : Guard) (step : Step) (c : Coord) :
    (step.apply guard).contains c = true ↔
      if step.coord = c then step = enter c else guard.contains c = true := by
  cases step with
  | enter d =>
      rw [apply, contains_enter, coord]
      split
      · next same => exact iff_of_true (.inl same.symm) (congrArg enter same)
      · next different => exact or_iff_right (Ne.symm different)
  | leave d =>
      rw [apply, contains_leave, coord]
      split
      · next same => exact iff_of_false (fun held => held.1 same.symm) nofun
      · next different => exact and_iff_right (Ne.symm different)

/-- What the step makes of the open blocks, the innermost one first, if it is properly
nested. -/
def nest? : List Coord → Step → Option (List Coord)
  | opened, enter c => some (c :: opened)
  | [], leave _ => none
  | last :: outer, leave c => if c = last then some outer else none

end Step

variable {steps : List Step} {opened : List Coord} {c : Coord}

/-- The guard after steps, one after another. -/
def after (steps : List Step) : Guard :=
  steps.foldl Step.apply empty

/-- The blocks that are open after properly nested steps, the innermost one first. -/
def opened? (steps : List Step) : Option (List Coord) :=
  steps.foldlM Step.nest? []

/-- The last step for a coordinate. -/
def latest? (steps : List Step) (c : Coord) : Option Step :=
  steps.reverse.find? fun step => step.coord == c

/-! ## One more step -/

theorem after_concat (steps : List Step) (step : Step) :
    after (steps ++ [step]) = step.apply (after steps) := by
  rw [after, List.foldl_append]
  rfl

theorem latest?_concat (steps : List Step) (step : Step) (c : Coord) :
    latest? (steps ++ [step]) c = if step.coord = c then some step else latest? steps c := by
  rw [latest?, List.reverse_append, List.reverse_singleton, List.singleton_append,
    List.find?_cons]
  by_cases same : step.coord = c
  · rw [if_pos same, beq_iff_eq.mpr same]
  · rw [if_neg same, beq_eq_false_iff_ne.mpr same]
    rfl

theorem opened?_concat (steps : List Step) (step : Step) :
    opened? (steps ++ [step]) = (opened? steps).bind fun opened => step.nest? opened := by
  rw [opened?, List.foldlM_append]
  exact congrArg _ (funext fun opened => bind_pure _)

theorem opened?_enter_iff :
    opened? (steps ++ [.enter c]) = some opened ↔
      ∃ outer, opened? steps = some outer ∧ opened = c :: outer := by
  rw [opened?_concat, Option.bind_eq_some_iff]
  simp [Step.nest?, eq_comm]

theorem opened?_leave_iff :
    opened? (steps ++ [.leave c]) = some opened ↔ opened? steps = some (c :: opened) := by
  rw [opened?_concat, Option.bind_eq_some_iff]
  constructor
  · rintro ⟨before, nested, closed⟩
    cases before with
    | nil => cases closed
    | cons last outer =>
        rw [Step.nest?] at closed
        split at closed
        · next same =>
            cases closed
            rw [nested, same]
        · cases closed
  · intro nested
    exact ⟨c :: opened, nested, if_pos rfl⟩

/-! ## What is held -/

/-- The guard holds the coordinates that have been entered and not left since. -/
theorem contains_after_iff (steps : List Step) (c : Coord) :
    (after steps).contains c = true ↔ latest? steps c = some (.enter c) := by
  induction steps using List.reverseRecOn with
  | nil => exact iff_of_false Bool.false_ne_true nofun
  | append_singleton steps step inductionHypothesis =>
      rw [after_concat, Step.contains_apply, latest?_concat]
      by_cases same : step.coord = c
      · rw [if_pos same, if_pos same, Option.some_inj]
      · rw [if_neg same, if_neg same, inductionHypothesis]

theorem mem_opened_of_contains (nested : opened? steps = some opened)
    (held : (after steps).contains c = true) : c ∈ opened := by
  induction steps using List.reverseRecOn generalizing opened with
  | nil => cases held
  | append_singleton steps step inductionHypothesis =>
      rw [after_concat] at held
      cases step with
      | enter d =>
          obtain ⟨outer, before, rfl⟩ := opened?_enter_iff.mp nested
          rcases (contains_enter _ d c).mp held with rfl | earlier
          · exact List.mem_cons_self
          · exact List.mem_cons_of_mem d (inductionHypothesis before earlier)
      | leave d =>
          obtain ⟨different, earlier⟩ := (contains_leave _ d c).mp held
          have before := inductionHypothesis (opened?_leave_iff.mp nested) earlier
          exact (List.mem_cons.mp before).resolve_left different

/-- A guard holds what is open and nothing else. -/
structure Mirrors (guard : Guard) (opened : List Coord) : Prop where
  contains_iff : ∀ c, guard.contains c = true ↔ c ∈ opened
  size_eq : guard.size = opened.toFinset.card

theorem mirrors_iff {guard : Guard} :
    guard.Mirrors opened ↔ ∀ c, guard.contains c = true ↔ c ∈ opened := by
  refine ⟨Mirrors.contains_iff, fun same => ⟨same, CoordMap.size_eq_card fun c => ?_⟩⟩
  rw [List.mem_toFinset]
  exact (same c).symm

/-- Whenever a block is closed, it stands inside no other one of its coordinate. -/
def ClosesOutermost (steps : List Step) : Prop :=
  ∀ earlier c outer, earlier ++ [.leave c] <+: steps → opened? earlier = some (c :: outer) →
    c ∉ outer

theorem Mirrors.of_closesOutermost (nested : opened? steps = some opened)
    (outermost : ClosesOutermost steps) : (after steps).Mirrors opened := by
  induction steps using List.reverseRecOn generalizing opened with
  | nil =>
      cases nested
      exact mirrors_iff.mpr fun c => iff_of_false Bool.false_ne_true List.not_mem_nil
  | append_singleton steps step inductionHypothesis =>
      have before : ∀ {outer}, opened? steps = some outer →
          ∀ c, (after steps).contains c = true ↔ c ∈ outer := fun nested =>
        mirrors_iff.mp (inductionHypothesis nested fun earlier c outer front =>
          outermost earlier c outer (front.trans (List.prefix_append _ _)))
      rw [after_concat, mirrors_iff]
      intro c
      cases step with
      | enter d =>
          obtain ⟨outer, nestedBefore, rfl⟩ := opened?_enter_iff.mp nested
          rw [Step.apply, contains_enter, before nestedBefore, List.mem_cons]
      | leave d =>
          have nestedBefore := opened?_leave_iff.mp nested
          have gone := outermost steps d opened (List.prefix_refl _) nestedBefore
          rw [Step.apply, contains_leave, before nestedBefore, List.mem_cons]
          constructor
          · rintro ⟨different, rfl | inside⟩
            · exact absurd rfl different
            · exact inside
          · intro inside
            exact ⟨fun same => gone (same ▸ inside), .inr inside⟩

/-- The guard mirrors the open blocks after every step exactly if every block that is
closed was the only open one for its coordinate. -/
theorem mirrors_throughout_iff (steps : List Step) :
    (∀ earlier opened, earlier <+: steps → opened? earlier = some opened →
      (after earlier).Mirrors opened) ↔ ClosesOutermost steps := by
  constructor
  · intro mirrors earlier c outer front nested inside
    have held := ((mirrors _ outer front (opened?_leave_iff.mpr nested)).contains_iff c).mpr inside
    rw [after_concat, Step.apply, contains_leave] at held
    exact held.1 rfl
  · intro outermost earlier opened front nested
    exact .of_closesOutermost nested fun before c outer shorter =>
      outermost before c outer (shorter.trans front)

/-! ## Held and open -/

/-- How what the guard holds after steps compares with the blocks that are open. -/
structure HoldsLatest (steps : List Step) (opened : List Coord) : Prop where
  /-- A coordinate is held if it has not been left since it was entered last. -/
  contains_iff : ∀ c, (after steps).contains c = true ↔ latest? steps c = some (.enter c)
  size_eq : (after steps).size =
    (opened.toFinset.filter fun c => latest? steps c = some (.enter c)).card
  isOpen : ∀ c, (after steps).contains c = true → c ∈ opened
  /-- All that is open is held, after every step, unless a block is closed inside another
  one of its coordinate. -/
  mirrors_iff : (∀ earlier opened, earlier <+: steps → opened? earlier = some opened →
    (after earlier).Mirrors opened) ↔ ClosesOutermost steps

theorem holdsLatest (nested : opened? steps = some opened) : HoldsLatest steps opened where
  contains_iff := contains_after_iff steps
  size_eq := by
    apply CoordMap.size_eq_card
    intro c
    rw [Finset.mem_filter, List.mem_toFinset, ← contains_after_iff]
    exact ⟨And.right, fun held => ⟨mem_opened_of_contains nested held, held⟩⟩
  isOpen _ := mem_opened_of_contains nested
  mirrors_iff := mirrors_throughout_iff steps

/-- A coordinate that is entered again inside its own block, with another one in between:
after the inner block has been closed the outer one is open and not held. -/
theorem holdsLatest_again :
    let a : Coord := ⟨0, 0⟩
    let b : Coord := ⟨0, 1⟩
    let steps := [.enter a, .enter b, .enter a, .leave a]
    opened? steps = some [b, a] ∧ (after steps).contains a = false ∧
      (after steps).contains b = true ∧ (after steps).size = 1 ∧
      ¬ (after steps).Mirrors [b, a] := by
  intro a b steps
  have nested : opened? steps = some [b, a] := by decide
  have holds := holdsLatest nested
  have missing : (after steps).contains a = false :=
    Bool.eq_false_iff.mpr ((holds.contains_iff a).not.mpr (by decide))
  refine ⟨nested, missing, (holds.contains_iff b).mpr (by decide), ?_, ?_⟩
  · rw [holds.size_eq]
    decide
  · intro mirrors
    exact Bool.false_ne_true (missing.symm.trans ((mirrors.contains_iff a).mpr (by decide)))

end Guard

end Spreadsheet
