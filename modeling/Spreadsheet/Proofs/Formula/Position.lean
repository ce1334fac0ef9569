import Spreadsheet.Formula.Evaluation
import Spreadsheet.Proofs.Formula.Reading
import Spreadsheet.Proofs.Query.Wording

/-!
# Positions

The position of a character goes into the message of a failure and nowhere else.  Readers that
differ in the position only read the same text to formulas that differ in wording only.
-/

namespace Spreadsheet

/-- However calls are evaluated and in whatever room, the two formulas cannot be told apart but
for the wording of a message. -/
def Formula.SameButWording (formula other : Formula) : Prop :=
  ∀ call room, Query.Alike .wording (formula.evaluate call room) (other.evaluate call room)

namespace Formula.SameButWording

variable {formula other : Formula}

theorem refl (formula : Formula) : SameButWording formula formula :=
  fun _ _ => Query.alike_wording _

theorem broken {cause cause' : Cause} (same : cause.code = cause'.code) :
    SameButWording (.broken cause) (.broken cause') :=
  fun _ _ => Query.alike_error same

theorem signed (sign : Sign) (same : SameButWording formula other) :
    SameButWording (.signed sign formula) (.signed sign other) :=
  fun call _ => Query.Alike.within_wording fun rest => (same call rest).map _

theorem binary (operator : Operator) (first : Formula) (same : SameButWording formula other) :
    SameButWording (.binary operator first formula) (.binary operator first other) :=
  fun call room => (Query.alike_wording _).bind fun _ =>
    (same call room).bind fun _ => Query.alike_wording _

theorem group (same : SameButWording formula other) :
    SameButWording (.group formula) (.group other) :=
  fun call _ => Query.Alike.within_wording (same call)

theorem halted (formula : Formula) {cause cause' : Cause} (same : cause.code = cause'.code) :
    SameButWording (.halted formula cause) (.halted formula cause') :=
  fun _ _ => (Query.alike_wording _).bind fun _ => Query.alike_error same

theorem rebuild (same : SameButWording formula other) (frames : List Frame) :
    SameButWording (Reader.rebuild formula frames) (Reader.rebuild other frames) := by
  induction frames generalizing formula other with
  | nil => exact same
  | cons frame frames inductionHypothesis =>
      cases frame with
      | sign sign => exact inductionHypothesis (same.signed sign)
      | left first operator => exact inductionHypothesis (same.binary operator first)
      | group => exact inductionHypothesis same.group

end Formula.SameButWording

namespace Reader

/-- The readers differ in the position only, or have stopped at formulas that differ in
wording. -/
inductive SameButPosition : Reader → Reader → Prop where
  | reading (position position' : Nat) (frames : List Frame) (edge : Edge) :
      SameButPosition (.reading position frames edge) (.reading position' frames edge)
  | trailing (formula : Formula) (position position' : Nat) (rest : Text) :
      SameButPosition (.trailing formula position rest) (.trailing formula position' rest)
  | stopped {formula other : Formula} (same : formula.SameButWording other) :
      SameButPosition (.stopped formula) (.stopped other)

variable {reader other : Reader}

theorem sameButPosition_stepOperator (position position' : Nat) (frames : List Frame)
    (operand : Formula) (c : Char) :
    SameButPosition (stepOperator position frames operand c)
      (stepOperator position' frames operand c) := by
  by_cases gap : Text.isGap c = true
  · simp only [stepOperator, if_pos gap]
    exact .reading _ _ _ _
  · simp only [stepOperator, if_neg gap]
    cases operator? c with
    | some operator => exact .reading _ _ _ _
    | none =>
        cases (close 0 operand frames).2 with
        | nil => exact .trailing _ _ _ _
        | cons frame outer =>
            by_cases closing : c = ')'
            · simp only [if_pos closing]
              exact .reading _ _ _ _
            · simp only [if_neg closing]
              exact .stopped (.refl _)

theorem sameButPosition_stepOperand (position position' : Nat) (frames : List Frame) (c : Char) :
    SameButPosition (stepOperand position frames c) (stepOperand position' frames c) := by
  simp only [stepOperand]
  repeat' split
  · exact .reading _ _ _ _
  · exact .reading _ _ _ _
  · exact .reading _ _ _ _
  · exact .reading _ _ _ _
  · exact .reading _ _ _ _
  · exact .reading _ _ _ _
  · -- the one place where a position is written down
    have same : (Cause.unexpectedChar c position).code = (Cause.unexpectedChar c position').code :=
      rfl
    exact .stopped ((Formula.SameButWording.broken same).rebuild frames)

/-- One more character goes on from the same to the same. -/
theorem SameButPosition.step (same : SameButPosition reader other) (c : Char) :
    SameButPosition (reader.step c) (other.step c) := by
  cases same with
  | trailing formula position position' rest => exact .trailing formula position position' _
  | stopped same => exact .stopped same
  | reading position position' frames edge =>
      rcases step_cases edge c with rfl | ⟨next, goesOn⟩ | ⟨operand, behind⟩
      · exact sameButPosition_stepOperand position position' frames c
      · rw [goesOn, goesOn]
        exact .reading _ _ frames next
      · rw [behind, behind]
        exact sameButPosition_stepOperator position position' frames operand c

theorem SameButPosition.foldl_step (same : SameButPosition reader other) (text : Text) :
    SameButPosition (text.foldl Reader.step reader) (text.foldl Reader.step other) := by
  induction text generalizing reader other with
  | nil => exact same
  | cons c text inductionHypothesis => exact inductionHypothesis (same.step c)

theorem SameButPosition.finish (same : SameButPosition reader other) :
    reader.finish.SameButWording other.finish := by
  cases same with
  | reading position position' frames edge => exact .refl _
  | trailing formula position position' rest => exact .halted formula rfl
  | stopped same => exact same

end Reader

end Spreadsheet
