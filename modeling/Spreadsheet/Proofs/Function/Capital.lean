import Spreadsheet.Proofs.Address.Capital
import Spreadsheet.Proofs.Formula.Capital
import Spreadsheet.Proofs.Function.Evaluation

/-!
# Evaluating texts in capitals

Evaluating a text in capitals asks for the same cells as evaluating the text as it is,
in the same order and in the same rooms, and a failure shows the same code.  The names
of the cells and the texts in the causes of failures may differ, so the two
conversations are alike without being one conversation.
-/

namespace Spreadsheet

/-- Questions for one cell in one room stand for one another, and so do failures that
show the same code and give their cell the same value. -/
def Likeness.caseless : Likeness where
  asks room name room' name' := room = room' ∧ Coord.decode name = Coord.decode name'
  fails failure other := failure.code? = other.code? ∧
    CellValue.ofOutcome (.error failure) = CellValue.ofOutcome (.error other)
  cuts := False
  fails_error _ := ⟨rfl, rfl⟩
  code_eq related := related.1

/-- Every room stands for itself. -/
def Rooms.caseless : Rooms .caseless where
  leave _ room room' := room = room'
  mono _ equal := equal
  take {share _ room _} := by
    rintro rfl
    rcases Nat.lt_or_ge room share with less | fits
    · exact .inr ⟨less, .inr ⟨less, rfl, rfl⟩⟩
    · exact .inl ⟨fits, fits, rfl⟩

/-- The text in capitals stands for the text. -/
def Texts.caseless : Texts .caseless .caseless where
  related text capitals := capitals = text.capitals
  isEmpty_eq := by
    rintro text _ rfl
    exact (Text.isEmpty_capitals text).symm
  range_eq := by
    rintro text _ rfl
    exact (Range.ofText?_capitals text).symm
  fails_range _ _ := ⟨rfl, rfl⟩
  asks_cell _ _ _ _ _ _ _ _ same := ⟨same, rfl⟩

theorem Query.Alike.within_caseless {α : Type} {share room : Nat} {inner inner' : Nat → Query α}
    (alike : Query.Alike .caseless (inner (room - share)) (inner' (room - share))) :
    Query.Alike .caseless (Query.within share room inner) (Query.within share room inner') :=
  Query.Alike.within (show Rooms.caseless.leave (share + 0) room room from rfl) fun _ => alike

theorem Query.Alike.error_capitals {α : Type} (cause : Cause) :
    Query.Alike .caseless (Query.error cause : Query α) (Query.error cause.capitals) := by
  apply Query.Alike.fail
  constructor
  · exact congrArg some cause.code_capitals.symm
  · simp only [CellValue.ofOutcome, Cause.code_capitals]

/-- The formula in capitals is evaluated alike, if calls are. -/
theorem Formula.evaluate_capitals {call call' : Nat → Text → List Text → Query Number}
    (calls : ∀ room function arguments, Query.Alike .caseless (call room function arguments)
      (call' room function (arguments.map Text.capitals)))
    (formula : Formula) (room : Nat) :
    Query.Alike .caseless (formula.evaluate call room)
      (formula.capitals.evaluate call' room) := by
  induction formula generalizing room with
  | number value => exact Query.Alike.done value
  | reference name =>
      apply Query.Alike.within_caseless
      refine Query.Alike.bind ?_ fun answer => Query.Alike.number answer
      apply Query.Alike.request (show Rooms.caseless.leave Nesting.lookup _ _ from rfl)
      rintro room _ rfl
      exact ⟨rfl, (Coord.decode_capitals name).symm⟩
  | signed sign operand inductionHypothesis =>
      exact Query.Alike.within_caseless ((inductionHypothesis _).map _)
  | binary operator left right leftHypothesis rightHypothesis =>
      exact (leftHypothesis room).bind fun value =>
        (rightHypothesis room).bind fun divisor => operator.apply_alike value divisor
  | group inner inductionHypothesis => exact Query.Alike.within_caseless (inductionHypothesis _)
  | call function arguments => exact calls room function arguments
  | broken cause => exact Query.Alike.error_capitals cause
  | halted start cause inductionHypothesis =>
      exact (inductionHypothesis room).bind fun _ => Query.Alike.error_capitals cause

namespace Registry

variable {functions : Registry} (respects : functions.Respects Texts.caseless)

include respects

/-- The text in capitals is evaluated alike, and so are the arguments of its calls. -/
theorem evaluate_capitals (calls room : Nat) (text : Text) :
    Query.Alike .caseless (functions.evaluate calls room text)
      (functions.evaluate calls room text.capitals) := by
  induction calls generalizing room text with
  | zero => exact Query.Alike.fail ⟨rfl, rfl⟩
  | succ calls inductionHypothesis =>
      rw [evaluate_succ, evaluate_succ, Formula.ofText_capitals]
      apply Formula.evaluate_capitals
      intro room function arguments
      have related : List.Forall₂ Texts.caseless.related arguments
          (arguments.map Text.capitals) := by
        rw [List.forall₂_map_right_iff]
        exact List.forall₂_same.mpr fun _ _ => rfl
      apply invoke_alike respects _ related
        (show Rooms.caseless.leave (Nesting.call + (Nesting.body + 0)) room room from rfl)
      rintro room _ text _ rfl rfl
      exact inductionHypothesis room text

theorem query_capitals (room : Nat) (text : Text) :
    Query.Alike .caseless (functions.query room text)
      (functions.query room text.capitals) :=
  Query.Alike.within_caseless (evaluate_capitals respects _ _ text)

end Registry

end Spreadsheet
