import Spreadsheet.Proofs.Formula.Enclosed
import Spreadsheet.Proofs.Function.Room
import Spreadsheet.Proofs.Query.Transcript

/-!
# Evaluation in parentheses

A text with balanced parentheses may be put into parentheses: it has the same value then, or
fails with the same code, and asks for the same cells before.  It need not be a formula.  What
the parentheses do take is room, one group's share, so in a room of its own the text in
parentheses is that much closer to being nested too deeply.  Functions do not see the
parentheses that their call stands in, since a `Call` has its arguments only.
-/

namespace Spreadsheet

namespace Query

variable {α ε σ : Type}

/-- Somebody who answers the same in all rooms notices only how much is cut short. -/
theorem Alike.hold_eq_of_truncation {query query' : Query α}
    (alike : Alike .truncation query query') (resolver : Text → ExceptT ε (StateM σ) CellValue)
    (state : σ) :
    (query.hold (fun _ => resolver) state).1 = .ok (.error .tooDeep) ∨
      query.hold (fun _ => resolver) state = query'.hold (fun _ => resolver) state := by
  induction alike generalizing state with
  | done result => exact .inr rfl
  | @fail failure other related =>
      obtain rfl : failure = other := related.1
      exact .inr rfl
  | cut allowed query => exact .inl rfl
  | @ask _ _ name name' _ _ related _ inductionHypothesis =>
      obtain rfl : name = name' := related.2
      rw [hold_ask, hold_ask]
      rcases (resolver name).run state with ⟨escape | answer, after⟩
      · exact .inr rfl
      · exact inductionHypothesis answer after

/-- Wording aside, only being nested too deeply shows as that. -/
theorem tooDeep_of_shown {ending : Except ε (Except Failure α) × σ}
    (deep : (shown ending).1 = .ok (.error .tooDeep)) : ending.1 = .ok (.error .tooDeep) := by
  rcases ending with ⟨escape | failure | result, after⟩
  · cases deep
  · cases failure with
    | tooDeep => rfl
    | error cause => cases deep
    | escape cause => cases deep
  · cases deep

end Query

namespace Registry

open Query (recorded shown)

variable {functions : Registry}

/-- A text in parentheses is evaluated like the text itself in the room that the parentheses
leave. -/
theorem within_group_alike (functions : Registry) {text : Text} (balanced : Balanced true text)
    (calls room : Nat) :
    Query.Alike .wording
      (Query.within Nesting.group room fun rest => functions.evaluate calls rest text)
      (functions.evaluate calls room text.enclosed) := by
  cases calls with
  | zero =>
      rw [Query.within]
      split
      · exact Query.alike_wording _
      · exact Query.alike_wording _
  | succ calls =>
      exact Formula.ofText_enclosed balanced (functions.invoke (functions.evaluate calls)) room

/-- In the same room a text is evaluated like the text in parentheses, unless the parentheses
are what the room is too small for. -/
theorem within_group_truncation (pure : functions.Pure) (calls room : Nat) (text : Text) :
    Query.Alike .truncation
      (Query.within Nesting.group room fun rest => functions.evaluate calls rest text)
      (functions.evaluate calls room text) := by
  rw [Query.within]
  by_cases fits : Nesting.group ≤ room
  · rw [if_pos fits]
    exact evaluate_truncation pure (Nat.le_refl calls) (Nat.sub_le _ _) text
  · rw [if_neg fits]
    exact .cut trivial _

/-- Parsing in place and parsing as a text of its own come to the same.  A text with balanced
parentheses, be it a formula or not, has the same value in parentheses as alone, or fails with
the same code or the same escape, after the same questions and answers.  That is so in any room
if the text in parentheses has one group's share more, and then even if the functions and the
one who answers depend on the room.  Otherwise it is so for pure functions in one and the same
room, if the text in parentheses is not nested too deeply. -/
theorem enclosed_same {functions : Registry} {text : Text} (balanced : Balanced true text) :
    (∀ (calls room : Nat) (ε σ : Type) (resolver : Nat → Text → ExceptT ε (StateM σ) CellValue)
      (state : σ),
      shown ((functions.evaluate calls (room + Nesting.group) text.enclosed).hold
          (recorded resolver) (state, [])) =
        shown ((functions.evaluate calls room text).hold (recorded resolver) (state, []))) ∧
    (functions.Pure → ∀ (room : Nat) (ε σ : Type)
      (resolver : Text → ExceptT ε (StateM σ) CellValue) (state : σ),
      ((functions.query room text.enclosed).hold (recorded fun _ => resolver) (state, [])).1 ≠
          .ok (.error .tooDeep) →
        shown ((functions.query room text.enclosed).hold (recorded fun _ => resolver)
            (state, [])) =
          shown ((functions.query room text).hold (recorded fun _ => resolver) (state, []))) := by
  constructor
  · intro calls room ε σ resolver state
    rw [← (functions.within_group_alike balanced calls _).shown_eq,
      Query.within_of_le (Nat.le_add_left _ _), Nat.add_sub_cancel]
  · -- both are compared with the text alone in the room that the parentheses would leave
    intro pure room ε σ resolver state
    have inGroup : Query.Alike .wording
        (Query.within Nesting.formula room fun rest =>
          Query.within Nesting.group rest fun left => functions.evaluate (rest + 1) left text)
        (functions.query room text.enclosed) :=
      Query.Alike.within_wording fun rest => functions.within_group_alike balanced _ rest
    have alone : Query.Alike .truncation
        (Query.within Nesting.formula room fun rest =>
          Query.within Nesting.group rest fun left => functions.evaluate (rest + 1) left text)
        (functions.query room text) := by
      have enough : Rooms.growing.leave (Nesting.formula + 0) room room := Nat.le_refl room
      exact Query.Alike.within enough fun _ => within_group_truncation pure _ _ text
    intro deep
    rw [← inGroup.shown_eq]
    rcases alone.hold_eq_of_truncation (recorded (fun _ => resolver) 0) (state, []) with
      cut | same
    · refine absurd (Query.tooDeep_of_shown ?_) deep
      rw [← inGroup.shown_eq]
      exact congrArg (Except.map (Except.mapError Failure.wordless)) cut
    · exact congrArg shown same

/-- A text that is no formula, although its parentheses are balanced: two cells are asked for
before it fails, alone and in parentheses. -/
theorem enclosed_same_rest :
    let answerOne : Text → ExceptT Empty (StateM Unit) CellValue :=
      fun _ => pure (.number (.ofNat 1))
    Balanced true "MAX(A1,B1) C1".toList ∧ builtins.Pure ∧
    ((builtins.query 60 "(MAX(A1,B1) C1)".toList).hold (recorded fun _ => answerOne)
      ((), [])).1 ≠ .ok (.error .tooDeep) ∧
    shown ((builtins.query 60 "(MAX(A1,B1) C1)".toList).hold (recorded fun _ => answerOne)
      ((), [])) =
      shown ((builtins.query 60 "MAX(A1,B1) C1".toList).hold (recorded fun _ => answerOne)
        ((), [])) ∧
    shown ((builtins.query 60 "MAX(A1,B1) C1".toList).hold (recorded fun _ => answerOne)
        ((), [])) =
      (.ok (.error (.error (.answered .err))), (),
        [("A1".toList, .number (.ofNat 1)), ("B1".toList, .number (.ofNat 1))]) := by
  intro answerOne
  have balanced : Balanced true "MAX(A1,B1) C1".toList := by decide
  have shallow : ((builtins.query 60 "(MAX(A1,B1) C1)".toList).hold (recorded fun _ => answerOne)
      ((), [])).1 ≠ .ok (.error .tooDeep) := by decide +kernel
  refine ⟨balanced, builtins_pure, shallow, ?_, by decide +kernel⟩
  exact (enclosed_same balanced).2 builtins_pure 60 Empty Unit answerOne () shallow

end Registry

end Spreadsheet
