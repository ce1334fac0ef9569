import Spreadsheet.Formula.Reader
import Spreadsheet.Proofs.Number.Capital

/-!
# Formulas in capitals

Reading a text in capitals takes the same steps as reading the text as it is: letters
remain letters, the mark of an exponent may be of either case, and every character that
decides what comes next is no letter.  So at every step what has been read is the same
but for the case of its letters, and so is the formula in the end.  The names of
functions are in upper case in both.
-/

namespace Spreadsheet

/-! ## Data in capitals -/

/-- The cause with what it shows of the text in capitals. -/
def Cause.capitals : Cause → Cause
  | unexpectedChar char position => unexpectedChar (Text.capital char) position
  | unexpectedRest rest position => unexpectedRest rest.capitals position
  | badNumber text => badNumber text.capitals
  | badReference text => badReference text.capitals
  | cause => cause

@[simp]
theorem Cause.code_capitals (cause : Cause) : cause.capitals.code = cause.code := by
  cases cause <;> rfl

/-- The formula with the names of its references and the arguments of its calls in
capitals. -/
def Formula.capitals : Formula → Formula
  | number value => number value
  | reference name => reference name.capitals
  | signed sign operand => signed sign operand.capitals
  | binary operator left right => binary operator left.capitals right.capitals
  | group inner => group inner.capitals
  | call function arguments => call function (arguments.map Text.capitals)
  | broken cause => broken cause.capitals
  | halted start cause => halted start.capitals cause.capitals

/-- The number that has been read in part, in capitals. -/
def NumeralScan.capitals (scan : NumeralScan) : NumeralScan :=
  { scan with read := scan.read.capitals }

namespace ArgumentScan

/-- The argument list that has been read in part, in capitals. -/
def capitals (scan : ArgumentScan) : ArgumentScan where
  finished := scan.finished.map Text.capitals
  current := scan.current.capitals
  depth := scan.depth

/-- The argument list that goes on or has been closed, in capitals. -/
def Progress.capitals : Progress → Progress
  | more scan => more scan.capitals
  | closed arguments => closed (arguments.map Text.capitals)

end ArgumentScan

/-- What waits for an operand, in capitals. -/
def Frame.capitals : Frame → Frame
  | .sign before => .sign before
  | .left operand operator => .left operand.capitals operator
  | .group => .group

/-- Where reading stands, with what has been read of it in capitals. -/
def Edge.capitals : Edge → Edge
  | .operand => .operand
  | .numeral scan => .numeral scan.capitals
  | .letters name => .letters name.capitals
  | .spacedLetters name => .spacedLetters name.capitals
  | .reference name => .reference name.capitals
  | .arguments function scan => .arguments function scan.capitals
  | .operator formula => .operator formula.capitals

/-- What has been read, in capitals. -/
def Reader.capitals : Reader → Reader
  | reading position frames edge => reading position (frames.map Frame.capitals) edge.capitals
  | trailing formula position rest => trailing formula.capitals position rest.capitals
  | stopped formula => stopped formula.capitals

/-! ## Numbers -/

namespace NumeralScan

theorem starts_capital (c : Char) : starts (Text.capital c) = starts c :=
  Text.capital_invariant starts (by decide) c

theorem capitals_start (c : Char) : (start c).capitals = start (Text.capital c) := by
  have point : (Text.capital c == '.') = (c == '.') :=
    Text.capital_invariant (· == '.') (by decide) c
  rw [start, start, point]
  rfl

theorem step?_capital (scan : NumeralScan) (c : Char) :
    scan.capitals.step? (Text.capital c) = (scan.step? c).map capitals := by
  have marks : (decide (Text.capital c = 'e') || decide (Text.capital c = 'E')) =
      (decide (c = 'e') || decide (c = 'E')) :=
    Text.capital_invariant (fun c => c = 'e' || c = 'E') (by decide) c
  simp (disch := decide) only [step?, Text.isDigit_capital, marks, capitals,
    Text.capital_eq_iff]
  split
  · rfl
  split
  · rfl
  split
  · rfl
  split
  · rfl
  · rfl

theorem operand_capitals (scan : NumeralScan) :
    scan.capitals.operand = scan.operand.capitals := by
  simp only [operand, capitals, ← Text.capitals_reverse, Number.ofText?_capitals]
  cases Number.ofText? scan.read.reverse with
  | some value => rfl
  | none => rfl

end NumeralScan

/-! ## Argument lists -/

namespace ArgumentScan

theorem currentArgument_capitals (scan : ArgumentScan) :
    scan.capitals.currentArgument = scan.currentArgument.capitals := by
  simp only [currentArgument, capitals, ← Text.capitals_reverse, Text.strip_capitals]

theorem close_capitals (scan : ArgumentScan) :
    scan.capitals.close = scan.close.map Text.capitals := by
  have empty : scan.capitals.finished.isEmpty = scan.finished.isEmpty := List.isEmpty_map
  have gaps : scan.capitals.current.all Text.isGap = scan.current.all Text.isGap :=
    Text.all_capitals Text.isGap_capital scan.current
  rw [close, empty, gaps, currentArgument_capitals, close]
  split
  · rfl
  · rw [List.map_reverse]
    rfl

theorem step_capital (scan : ArgumentScan) (c : Char) :
    scan.capitals.step (Text.capital c) = (scan.step c).capitals := by
  have depth : scan.capitals.depth = scan.depth := rfl
  simp (disch := decide) only [step, close_capitals, currentArgument_capitals, depth,
    Text.capital_eq_iff]
  split
  · rfl
  split
  · cases scan.depth with
    | zero => rfl
    | succ outer => rfl
  split
  · rfl
  · rfl

end ArgumentScan

/-! ## Readers -/

namespace Reader

theorem close_capitals (strength : Nat) (operand : Formula) (frames : List Frame) :
    close strength operand.capitals (frames.map Frame.capitals) =
      ((close strength operand frames).1.capitals,
        (close strength operand frames).2.map Frame.capitals) := by
  fun_induction close strength operand frames with
  | case1 operand sign frames inductionHypothesis => exact inductionHypothesis
  | case2 operand first operator frames tight inductionHypothesis =>
      rw [List.map_cons, Frame.capitals, close, if_pos tight]
      exact inductionHypothesis
  | case3 operand first operator frames loose =>
      rw [List.map_cons, Frame.capitals, close, if_neg loose]
  | case4 operand frames noSign noLeft =>
      cases frames with
      | nil => rfl
      | cons frame frames =>
          cases frame with
          | sign sign => exact absurd rfl (noSign sign frames)
          | left first operator => exact absurd rfl (noLeft first operator frames)
          | group => rfl

theorem rebuild_capitals (operand : Formula) (frames : List Frame) :
    rebuild operand.capitals (frames.map Frame.capitals) = (rebuild operand frames).capitals := by
  fun_induction rebuild operand frames with
  | case1 operand => rfl
  | case2 operand sign frames inductionHypothesis => exact inductionHypothesis
  | case3 operand first operator frames inductionHypothesis => exact inductionHypothesis
  | case4 operand frames inductionHypothesis => exact inductionHypothesis

theorem unclosed_capitals (operand : Formula) (frames : List Frame) :
    unclosed operand.capitals (frames.map Frame.capitals) =
      (unclosed operand frames).capitals := by
  simp only [unclosed, close_capitals]
  cases (close 0 operand frames).2 with
  | nil => rfl
  | cons frame waiting =>
      exact rebuild_capitals (.halted (close 0 operand frames).1 .missingParenthesis)
        (frame :: waiting)

theorem stepOperator_capital (position : Nat) (frames : List Frame) (operand : Formula)
    (c : Char) :
    stepOperator position (frames.map Frame.capitals) operand.capitals (Text.capital c) =
      (stepOperator position frames operand c).capitals := by
  have operators : operator? (Text.capital c) = operator? c :=
    Text.capital_invariant operator? (by decide) c
  simp (disch := decide) only [stepOperator, Text.isGap_capital, operators, close_capitals,
    Text.capital_eq_iff]
  split
  · rfl
  cases operator? c with
  | some operator => rfl
  | none =>
      cases (close 0 operand frames).2 with
      | nil => rfl
      | cons frame outer =>
          by_cases closing : c = ')'
          · simp only [List.map_cons, if_pos closing]
            rfl
          · simp only [List.map_cons, if_neg closing]
            exact congrArg stopped (rebuild_capitals
              (.halted (close 0 operand frames).1 .missingParenthesis) (frame :: outer))

theorem stepOperand_capital (position : Nat) (frames : List Frame) (c : Char) :
    stepOperand position (frames.map Frame.capitals) (Text.capital c) =
      (stepOperand position frames c).capitals := by
  simp (disch := decide) only [stepOperand, Text.isGap_capital, Text.isLetter_capital,
    NumeralScan.starts_capital, ← NumeralScan.capitals_start, Text.capital_eq_iff]
  split
  · rfl
  split
  · rfl
  split
  · rfl
  split
  · rfl
  split
  · rfl
  split
  · rfl
  · exact congrArg stopped (rebuild_capitals (.broken (.unexpectedChar c position)) frames)

theorem bareWord_capitals (name : Text) : bareWord name.capitals = (bareWord name).capitals := by
  rw [bareWord, ← Text.capitals_reverse]
  rfl

theorem reference_capitals (name : Text) :
    Formula.reference name.capitals.reverse = (Formula.reference name.reverse).capitals := by
  rw [← Text.capitals_reverse]
  rfl

theorem step_capital (reader : Reader) (c : Char) :
    reader.capitals.step (Text.capital c) = (reader.step c).capitals := by
  cases reader with
  | trailing formula position rest => rfl
  | stopped formula => rfl
  | reading position frames edge =>
      cases edge with
      | operand => exact stepOperand_capital position frames c
      | operator operand => exact stepOperator_capital position frames operand c
      | numeral scan =>
          simp only [capitals, Edge.capitals, step, NumeralScan.step?_capital,
            NumeralScan.operand_capitals, stepOperator_capital]
          cases scan.step? c with
          | some next => rfl
          | none => rfl
      | letters name =>
          simp (disch := decide) only [capitals, Edge.capitals, step, Text.isLetter_capital,
            Text.isDigit_capital, Text.isGap_capital, Text.capital_eq_iff, bareWord_capitals,
            stepOperator_capital, ← Text.capitals_reverse, Text.upper_capitals]
          split
          · rfl
          split
          · rfl
          split
          · rfl
          split
          · rfl
          · rfl
      | spacedLetters name =>
          simp (disch := decide) only [capitals, Edge.capitals, step, Text.isGap_capital,
            Text.capital_eq_iff, bareWord_capitals, stepOperator_capital,
            ← Text.capitals_reverse, Text.upper_capitals]
          split
          · rfl
          split
          · rfl
          · rfl
      | reference name =>
          simp only [capitals, Edge.capitals, step, Text.isDigit_capital, reference_capitals,
            stepOperator_capital]
          split
          · rfl
          · rfl
      | arguments function scan =>
          simp only [capitals, Edge.capitals, step, ArgumentScan.step_capital]
          cases scan.step c with
          | more next => rfl
          | closed arguments => rfl

theorem finish_capitals (reader : Reader) : reader.capitals.finish = reader.finish.capitals := by
  cases reader with
  | trailing formula position rest =>
      simp only [capitals, finish, ← Text.capitals_reverse]
      rfl
  | stopped formula => rfl
  | reading position frames edge =>
      cases edge with
      | operand => exact rebuild_capitals (.broken .endOfFormula) frames
      | operator operand => exact unclosed_capitals operand frames
      | numeral scan =>
          simp only [capitals, Edge.capitals, finish, NumeralScan.operand_capitals,
            unclosed_capitals]
      | letters name =>
          simp only [capitals, Edge.capitals, finish, bareWord_capitals, unclosed_capitals]
      | spacedLetters name =>
          simp only [capitals, Edge.capitals, finish, bareWord_capitals, unclosed_capitals]
      | reference name =>
          simp only [capitals, Edge.capitals, finish, reference_capitals, unclosed_capitals]
      | arguments function scan => exact rebuild_capitals (.broken .unterminatedArguments) frames

end Reader

/-- The text in capitals stands for the formula in capitals. -/
theorem Formula.ofText_capitals (text : Text) :
    ofText text.capitals = (ofText text).capitals := by
  have run : text.capitals.foldl Reader.step Reader.start.capitals =
      (text.foldl Reader.step Reader.start).capitals := by
    rw [Text.capitals, List.foldl_map]
    exact List.foldl_hom Reader.capitals Reader.step_capital
  exact (congrArg Reader.finish run).trans (Reader.finish_capitals _)

end Spreadsheet
