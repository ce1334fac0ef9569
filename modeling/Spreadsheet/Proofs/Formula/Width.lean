import Spreadsheet.Formula.Reader
import Spreadsheet.Proofs.Text.Strip

/-!
# The width of formulas

Reading turns every character into at most one thing that takes room when the
formula is evaluated.  The width of a formula counts these things, with the
lengths of the argument texts that calls have kept, and it is at most the length
of the text.
-/

namespace Spreadsheet

namespace Formula

/-- How many things a formula holds that may take room, the characters of
arguments among them. -/
def width : Formula → Nat
  | number _ => 0
  | reference _ => 1
  | signed _ operand => operand.width + 1
  | binary _ left right => left.width + right.width
  | group inner => inner.width + 1
  | call _ arguments => arguments.flatten.length + 2
  | broken _ => 0
  | halted start _ => start.width

/-- Every reference in a formula has a property, and every call another. -/
def All (references : Text → Prop) (calls : Text → List Text → Prop) : Formula → Prop
  | number _ => True
  | reference name => references name
  | signed _ operand => operand.All references calls
  | binary _ left right => left.All references calls ∧ right.All references calls
  | group inner => inner.All references calls
  | call function arguments => calls function arguments
  | broken _ => True
  | halted start _ => start.All references calls

theorem All.mono {references references' : Text → Prop}
    {calls calls' : Text → List Text → Prop}
    (names : ∀ name, references name → references' name)
    (functions : ∀ function arguments, calls function arguments →
      calls' function arguments) {formula : Formula} (all : formula.All references calls) :
    formula.All references' calls' := by
  induction formula with
  | number value => trivial
  | reference name => exact names name all
  | signed sign operand inductionHypothesis => exact inductionHypothesis all
  | binary operator left right leftHypothesis rightHypothesis =>
      exact ⟨leftHypothesis all.1, rightHypothesis all.2⟩
  | group inner inductionHypothesis => exact inductionHypothesis all
  | call function arguments => exact functions function arguments all
  | broken cause => trivial
  | halted start cause inductionHypothesis => exact inductionHypothesis all

end Formula

/-! ## The width of what has been read -/

/-- The width of what waits for an operand. -/
def Frame.width : Frame → Nat
  | .sign _ => 1
  | .left operand _ => operand.width
  | .group => 1

/-- The width of frames around one another. -/
def Frame.widths : List Frame → Nat
  | [] => 0
  | frame :: frames => frame.width + widths frames

/-- How many characters an argument list holds. -/
def ArgumentScan.width (scan : ArgumentScan) : Nat :=
  scan.finished.flatten.length + scan.current.length

/-- The width of the token or operand at which reading stands. -/
def Edge.width : Edge → Nat
  | .reference _ => 1
  | .arguments _ scan => scan.width + 1
  | .operator formula => formula.width
  | _ => 0

namespace Reader

/-- The width of a formula that has been read in part. -/
def width : Reader → Nat
  | reading _ frames edge => Frame.widths frames + edge.width
  | trailing formula _ _ => formula.width
  | stopped formula => formula.width

@[simp]
theorem width_reading (position : Nat) (frames : List Frame) (edge : Edge) :
    (reading position frames edge).width = Frame.widths frames + edge.width :=
  rfl

theorem width_close (strength : Nat) (operand : Formula) (frames : List Frame) :
    (close strength operand frames).1.width +
        Frame.widths (close strength operand frames).2 =
      operand.width + Frame.widths frames := by
  induction frames generalizing operand with
  | nil => rfl
  | cons frame frames inductionHypothesis =>
      cases frame with
      | sign sign =>
          rw [close, inductionHypothesis]
          simp only [Formula.width, Frame.widths, Frame.width]
          omega
      | left first operator =>
          rw [close]
          split
          · rw [inductionHypothesis]
            simp only [Formula.width, Frame.widths, Frame.width]
            omega
          · rfl
      | group => rfl

theorem width_rebuild (operand : Formula) (frames : List Frame) :
    (rebuild operand frames).width = operand.width + Frame.widths frames := by
  induction frames generalizing operand with
  | nil => rfl
  | cons frame frames inductionHypothesis =>
      cases frame <;> rw [rebuild, inductionHypothesis] <;>
        simp only [Formula.width, Frame.widths, Frame.width] <;> omega

theorem width_unclosed (operand : Formula) (frames : List Frame) :
    (unclosed operand frames).width = operand.width + Frame.widths frames := by
  have closed := width_close 0 operand frames
  simp only [unclosed]
  cases waiting : (close 0 operand frames).2 with
  | nil => simpa [waiting, Frame.widths] using closed
  | cons frame outer => rw [width_rebuild, ← closed, waiting, Formula.width]

theorem width_stepOperator (position : Nat) (frames : List Frame) (operand : Formula)
    (c : Char) :
    (stepOperator position frames operand c).width ≤
      operand.width + Frame.widths frames + 1 := by
  rw [stepOperator]
  split
  · simp only [width, Edge.width]
    omega
  · split
    · next operator _ =>
        have closed := width_close operator.strength operand frames
        simp only [width, Edge.width, Frame.widths, Frame.width]
        omega
    · have closed := width_close 0 operand frames
      simp only
      split
      · next outermost =>
          rw [outermost] at closed
          simp only [width, Frame.widths] at closed ⊢
          omega
      · next frame outer waiting =>
          split
          · rw [waiting] at closed
            simp only [width, Edge.width, Formula.width, Frame.widths] at closed ⊢
            omega
          · simp only [width, width_rebuild, Formula.width]
            omega

theorem width_stepOperand (position : Nat) (frames : List Frame) (c : Char) :
    (stepOperand position frames c).width ≤ Frame.widths frames + 1 := by
  rw [stepOperand]
  repeat' split
  all_goals
    simp only [width, width_rebuild, Edge.width, Formula.width, Frame.widths, Frame.width]
    omega

end Reader

namespace ArgumentScan

theorem length_currentArgument_le (scan : ArgumentScan) :
    scan.currentArgument.length ≤ scan.current.length := by
  have stripped := (Text.strip_sublist scan.current.reverse).length_le
  rwa [List.length_reverse] at stripped

theorem length_close_le (scan : ArgumentScan) :
    scan.close.flatten.length ≤ scan.width := by
  have argument := scan.length_currentArgument_le
  rw [close, width]
  split
  · exact Nat.zero_le _
  · simp only [List.length_flatten, List.map_reverse, List.sum_reverse, List.map_cons,
      List.sum_cons]
    omega

theorem width_step (scan : ArgumentScan) (c : Char) :
    match scan.step c with
    | .more next => next.width ≤ scan.width + 1
    | .closed arguments => arguments.flatten.length ≤ scan.width := by
  have argument := scan.length_currentArgument_le
  have closed := scan.length_close_le
  cases moved : scan.step c with
  | closed arguments =>
      simp only [step] at moved
      repeat' split at moved
      all_goals cases moved
      exact closed
  | more next =>
      simp only [step] at moved
      repeat' split at moved
      all_goals cases moved
      all_goals
        simp only [width, List.length_cons, List.flatten_cons, List.length_append,
          List.length_nil]
        omega

end ArgumentScan

namespace Reader

/-- One more character adds at most one to the width. -/
theorem width_step (reader : Reader) (c : Char) : (reader.step c).width ≤ reader.width + 1 := by
  -- A character makes its token longer, or comes behind the operand that the token is.
  cases reader with
  | trailing formula position rest => exact Nat.le_succ _
  | stopped formula => exact Nat.le_succ _
  | reading position frames edge =>
      cases edge with
      | operand =>
          simpa only [step, width_reading, Edge.width] using width_stepOperand position frames c
      | operator operand =>
          have bound := width_stepOperator position frames operand c
          simp only [step, width_reading, Edge.width] at bound ⊢
          omega
      | numeral scan =>
          have operandWidth : scan.operand.width = 0 := by
            rw [NumeralScan.operand]
            split <;> rfl
          have bound := width_stepOperator position frames scan.operand c
          simp only [step]
          split
          · simp only [width_reading, Edge.width]
            omega
          · simp only [width_reading, Edge.width]
            omega
      | letters name =>
          have bound := width_stepOperator position frames (bareWord name) c
          simp only [bareWord, Formula.width] at bound
          simp only [step, bareWord]
          split
          · exact Nat.le_succ _
          · split
            · exact Nat.le_refl _
            · split
              · exact Nat.le_refl _
              · split
                · exact Nat.le_succ _
                · simp only [width_reading, Edge.width]
                  omega
      | spacedLetters name =>
          have bound := width_stepOperator position frames (bareWord name) c
          simp only [bareWord, Formula.width] at bound
          simp only [step, bareWord]
          split
          · exact Nat.le_succ _
          · split
            · exact Nat.le_refl _
            · simp only [width_reading, Edge.width]
              omega
      | reference name =>
          have bound := width_stepOperator position frames (.reference name.reverse) c
          simp only [Formula.width] at bound
          simp only [step]
          split
          · simp only [width_reading, Edge.width]
            omega
          · simp only [width_reading, Edge.width]
            omega
      | arguments function scan =>
          have bound := scan.width_step c
          simp only [step]
          split
          · next next more =>
              rw [more] at bound
              simp only [width_reading, Edge.width] at bound ⊢
              omega
          · next arguments closed =>
              rw [closed] at bound
              simp only [width_reading, Edge.width, Formula.width] at bound ⊢
              omega

theorem width_foldl_step (reader : Reader) (text : Text) :
    (text.foldl step reader).width ≤ reader.width + text.length := by
  induction text generalizing reader with
  | nil => exact Nat.le_refl _
  | cons c rest inductionHypothesis =>
      have first := reader.width_step c
      have later := inductionHypothesis (reader.step c)
      rw [List.foldl_cons, List.length_cons]
      omega

theorem width_finish (reader : Reader) : reader.finish.width ≤ reader.width := by
  cases reader with
  | trailing formula position rest => exact Nat.le_refl _
  | stopped formula => exact Nat.le_refl _
  | reading position frames edge =>
      cases edge <;>
        simp only [finish, width, width_rebuild, width_unclosed, Edge.width, Formula.width,
          bareWord]
      case numeral scan =>
        rw [NumeralScan.operand]
        split <;> simp only [Formula.width] <;> omega
      all_goals omega

end Reader

/-- A formula is no wider than its text is long. -/
theorem Formula.width_ofText_le (text : Text) : (ofText text).width ≤ text.length := by
  have finished := (text.foldl Reader.step Reader.start).width_finish
  have read := Reader.start.width_foldl_step text
  have started : Reader.start.width = 0 := rfl
  rw [ofText]
  omega

end Spreadsheet
