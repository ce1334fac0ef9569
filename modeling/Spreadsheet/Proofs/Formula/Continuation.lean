import Spreadsheet.Proofs.Formula.Context
import Spreadsheet.Proofs.Query.Foretelling

/-!
# Reading on behind a formula

A text is read, and then an operation and any further text behind it.  The longer text is
another formula, in which the last operands of the shorter one may be bound more tightly, groups
that were left open are closed, and what was an error at the end of the text is none any more.
Yet both begin in the same way: the operands that were read are evaluated first, in the same
order and in the same rooms, and so are the operations that bind at least as tightly as the one
behind them.  Among these are all divisions, and no other operation can fail.
-/

namespace Spreadsheet

/-- Every operation waits among frames that accept an operand of its strength. -/
def Frame.Stacked : List Frame → Prop
  | [] => True
  | .left _ operator :: frames => Accept operator.strength frames ∧ Stacked frames
  | .sign _ :: frames => Stacked frames
  | .group :: frames => Stacked frames

namespace Reader

open Formula (Context)
open Query (Foretells)

variable {frames : List Frame} {operand : Formula}

/-! ## Stacked frames -/

/-- The frames of a reader are stacked. -/
def Stacked : Reader → Prop
  | .reading _ frames _ => Frame.Stacked frames
  | _ => True

theorem stacked_close (strength : Nat) (stacked : Frame.Stacked frames) :
    Frame.Stacked (close strength operand frames).2 := by
  induction frames generalizing operand with
  | nil => trivial
  | cons frame frames inductionHypothesis =>
      cases frame with
      | sign sign => exact inductionHypothesis stacked
      | left first operator =>
          by_cases closes : strength ≤ operator.strength
          · rw [close, if_pos closes]
            exact inductionHypothesis stacked.2
          · rw [close, if_neg closes]
            exact stacked
      | group => exact stacked

theorem stacked_stepOperator (position : Nat) (c : Char) (stacked : Frame.Stacked frames) :
    (stepOperator position frames operand c).Stacked := by
  rcases stepOperator_cases position frames operand c with ⟨-, skipped⟩ | ⟨operator, -, pushed⟩ |
    ⟨outer, waiting, -, closed⟩ | ⟨-, complete⟩ | ⟨outer, -, -, stops⟩
  · rw [skipped]
    exact stacked
  · rw [pushed]
    exact ⟨accepts_close _ _ _, stacked_close _ stacked⟩
  · have later := @stacked_close _ operand 0 stacked
    rw [waiting] at later
    rw [closed]
    exact later
  · rw [complete]
    trivial
  · rw [stops]
    trivial

theorem stacked_stepOperand (position : Nat) (c : Char) (stacked : Frame.Stacked frames) :
    (stepOperand position frames c).Stacked := by
  rw [stepOperand]
  repeat' split
  · exact stacked
  · exact stacked
  · exact stacked
  · exact stacked
  · exact stacked
  · exact stacked
  · trivial

theorem Stacked.step {reader : Reader} (stacked : reader.Stacked) (c : Char) :
    (reader.step c).Stacked := by
  cases reader with
  | trailing formula position rest => trivial
  | stopped formula => trivial
  | reading position frames edge =>
      rcases step_cases edge c with rfl | ⟨next, goesOn⟩ | ⟨operand, behind⟩
      · exact stacked_stepOperand position c stacked
      · rw [goesOn]
        exact stacked
      · rw [behind]
        exact stacked_stepOperator position c stacked

theorem Stacked.foldl_step {reader : Reader} (stacked : reader.Stacked) (text : Text) :
    (text.foldl Reader.step reader).Stacked := by
  induction text generalizing reader with
  | nil => exact stacked
  | cons c text inductionHypothesis => exact inductionHypothesis (stacked.step c)

theorem accepts_sum_cases (accepts : Frame.Accept Operator.add.strength frames) :
    frames = [] ∨ ∃ outer, frames = .group :: outer := by
  match frames, accepts with
  | [], _ => exact .inl rfl
  | .group :: outer, _ => exact .inr ⟨outer, rfl⟩
  | .left _ operator :: _, below =>
      have least : Operator.add.strength ≤ operator.strength := by cases operator <;> decide
      exact absurd below (Nat.not_lt_of_le least)
  | .sign _ :: _, below =>
      have operation : Operator.add.strength ≤ 2 := by decide
      exact absurd below (Nat.not_lt_of_le operation)

/-- What has been closed for one operation can be closed further. -/
theorem close_close {weaker strength : Nat} (le : weaker ≤ strength) :
    close weaker (close strength operand frames).1 (close strength operand frames).2 =
      close weaker operand frames := by
  induction frames generalizing operand with
  | nil => rfl
  | cons frame frames inductionHypothesis =>
      cases frame with
      | sign sign => exact inductionHypothesis
      | left first operator =>
          by_cases closes : strength ≤ operator.strength
          · simp only [close, if_pos closes, if_pos (Nat.le_trans le closes)]
            exact inductionHypothesis
          · simp only [close, if_neg closes]
      | group => rfl

theorem unclosed_close (strength : Nat) :
    unclosed (close strength operand frames).1 (close strength operand frames).2 =
      unclosed operand frames := by
  simp only [unclosed, close_close (Nat.zero_le strength)]

theorem isContext_rebuild_place (frames : List Frame) :
    IsContext frames fun filling => rebuild filling frames :=
  isContext_rebuild .place frames (List.nil_append frames)

/-! ## What is evaluated first -/

section Evaluation

variable (call : Nat → Text → List Text → Query Number) (room : Nat)

/-- The operands of the frames are evaluated before anything in their midst, -/
theorem reach_foretells_fill (context : Context) (inner : List Frame)
    (within : context.frames = inner ++ frames) (operand : Formula) :
    Foretells (Frame.reach call room frames) ((context.fill operand).evaluate call room) := by
  have inside : Foretells (Frame.reach call room frames)
      (Frame.reach call room context.frames) := by
    rw [within, Frame.reach_append]
    exact Query.foretells_bind _ _
  refine inside.trans ?_
  rw [← context.fst_approach, context.evaluate_fill]
  exact Foretells.bind _ fun here => Query.foretells_done here.1 _

/-- and so is an operand in their midst before anything behind it. -/
theorem operand_foretells_fill (context : Context) (operand : Formula) :
    Foretells (Frame.reach call room context.frames >>= fun inner => operand.evaluate call inner)
      ((context.fill operand).evaluate call room) := by
  rw [← context.fst_approach, bind_map_left, context.evaluate_fill]
  exact Foretells.bind _ fun here => Query.foretells_bind _ _

/-- Where an operand is missing, only the frames around it can have failed. -/
theorem fill_broken_foretells (context : Context) {cause : Cause} (general : cause.code = .err) :
    Foretells ((context.fill (.broken cause)).evaluate call room)
      (Frame.reach call room context.frames) := by
  rw [← context.fst_approach, context.evaluate_fill]
  exact Foretells.bind _ fun here => Query.foretells_error general _

/-- Where no operation waits for the operand, either the group around it is not closed, which
shows `#ERR`, or there is nothing more to be done. -/
theorem unclosed_foretells_of_accepts_sum
    (accepts : Frame.Accept Operator.add.strength frames) (operand : Formula) :
    Foretells ((unclosed operand frames).evaluate call room)
      (Frame.reach call room frames >>= fun inner => operand.evaluate call inner) := by
  rcases accepts_sum_cases accepts with rfl | ⟨outer, rfl⟩
  · exact .refl _
  · obtain ⟨context, within, same⟩ := isContext_rebuild_place (.group :: outer)
    have unclosed_eq : unclosed operand (.group :: outer) =
        context.fill (.halted operand .missingParenthesis) :=
      same (.halted operand .missingParenthesis)
    rw [unclosed_eq, ← within, ← context.fst_approach, bind_map_left, context.evaluate_fill]
    refine Foretells.bind _ fun here => ?_
    simp only [Formula.evaluate, bind_assoc]
    exact Query.bind_foretells _ fun _ => Query.foretells_error rfl _

/-- When the text ends behind an operand that an operation could follow, the operand is the last
thing that can fail with a code of its own: all that waits for it then is a sum or a
difference. -/
theorem unclosed_foretells {operator : Operator}
    (accepts : Frame.Accept operator.strength frames) (stacked : Frame.Stacked frames)
    (operand : Formula) :
    Foretells ((unclosed operand frames).evaluate call room)
      (Frame.reach call room frames >>= fun inner => operand.evaluate call inner) := by
  match frames, accepts, stacked with
  | [], _, _ =>
      have none : Frame.Accept Operator.add.strength [] := trivial
      exact unclosed_foretells_of_accepts_sum call room none operand
  | .group :: outer, _, _ =>
      have group : Frame.Accept Operator.add.strength (.group :: outer) := trivial
      exact unclosed_foretells_of_accepts_sum call room group operand
  | .sign _ :: _, binds, _ =>
      have operation : operator.strength ≤ 2 := by cases operator <;> decide
      exact absurd binds (Nat.not_lt_of_le operation)
  | .left first waiting :: outer, binds, ⟨outerAccepts, _⟩ =>
      have weakest : waiting = .add ∨ waiting = .sub := by
        have below : waiting.strength < operator.strength := binds
        cases waiting with
        | add => exact .inl rfl
        | sub => exact .inr rfl
        | mul => exact absurd below (by cases operator <;> decide)
        | div => exact absurd below (by cases operator <;> decide)
      have sum : waiting.strength = Operator.add.strength := by
        rcases weakest with rfl | rfl <;> rfl
      rw [sum] at outerAccepts
      -- the sum or difference is closed, and then nothing waits for it
      change Foretells ((unclosed (.binary waiting first operand) outer).evaluate call room) _
      refine (unclosed_foretells_of_accepts_sum call room outerAccepts _).trans ?_
      simp only [Frame.reach, Formula.evaluate, bind_assoc, pure_bind]
      refine Foretells.bind _ fun inner => Foretells.bind _ fun value => ?_
      refine Query.bind_foretells _ fun second => ?_
      rcases weakest with rfl | rfl
      · exact Query.foretells_done _ _
      · exact Query.foretells_done _ _

end Evaluation

/-! ## Reading on -/

/-- The formula has the frames around an operand, and perhaps further frames within them. -/
def Surrounds (frames : List Frame) (formula : Formula) : Prop :=
  ∃ (context : Context) (inner : List Frame) (operand : Formula),
    context.frames = inner ++ frames ∧ formula = context.fill operand

theorem surrounds_of_isContext {formula : Formula → Formula} (isContext : IsContext frames formula)
    (operand : Formula) : Surrounds frames (formula operand) := by
  obtain ⟨context, within, same⟩ := isContext
  exact ⟨context, [], operand, within, same operand⟩

theorem Surrounds.outer {frame : Frame} {formula : Formula}
    (surrounds : Surrounds (frame :: frames) formula) : Surrounds frames formula := by
  obtain ⟨context, inner, operand, within, same⟩ := surrounds
  refine ⟨context, inner ++ [frame], operand, ?_, same⟩
  rw [within, List.append_assoc, List.singleton_append]

theorem surrounds_rebuild (frames : List Frame) (operand : Formula) :
    Surrounds frames (rebuild operand frames) :=
  surrounds_of_isContext (isContext_rebuild_place frames) operand

theorem surrounds_operator (position : Nat) (frames : List Frame) (operand : Formula)
    (text : Text) :
    Surrounds frames (text.foldl step (reading position frames (.operator operand))).finish := by
  obtain ⟨context, within, same⟩ := exists_context position frames text
  exact surrounds_of_isContext ⟨context, within, same⟩ operand

theorem foldl_stopped (formula : Formula) (text : Text) :
    text.foldl step (stopped formula) = stopped formula := by
  induction text with
  | nil => rfl
  | cons c text inductionHypothesis => exact inductionHypothesis

/-- Whatever is read among frames, they are around an operand of the formula. -/
theorem surrounds_foldl (position : Nat) (frames : List Frame) (edge : Edge) (text : Text) :
    Surrounds frames (text.foldl step (reading position frames edge)).finish := by
  induction text generalizing position frames edge with
  | nil =>
      cases edge with
      | operand => exact surrounds_rebuild frames _
      | arguments function scan => exact surrounds_rebuild frames _
      | operator operand => exact surrounds_operator position frames operand []
      | numeral scan => exact surrounds_operator position frames scan.operand []
      | letters name => exact surrounds_operator position frames (bareWord name) []
      | spacedLetters name => exact surrounds_operator position frames (bareWord name) []
      | reference name => exact surrounds_operator position frames (.reference name.reverse) []
  | cons c text inductionHypothesis =>
      rcases step_cases edge c with rfl | ⟨next, goesOn⟩ | ⟨operand, behind⟩
      · rw [List.foldl_cons]
        simp only [step, stepOperand]
        repeat' split
        · exact inductionHypothesis _ _ _
        · exact (inductionHypothesis _ (.sign .plus :: frames) _).outer
        · exact (inductionHypothesis _ (.sign .minus :: frames) _).outer
        · exact (inductionHypothesis _ (.group :: frames) _).outer
        · exact inductionHypothesis _ _ _
        · exact inductionHypothesis _ _ _
        · rw [foldl_stopped]
          exact surrounds_rebuild frames _
      · rw [List.foldl_cons, goesOn]
        exact inductionHypothesis _ _ _
      · rw [List.foldl_cons, behind]
        exact surrounds_operator position frames operand (c :: text)

/-- Where an operation comes behind a token or operand, it comes behind a whole operand, unless
an operand is still missing. -/
theorem operation_cases (edge : Edge) :
    (∀ position frames, ∃ cause : Cause, cause.code = .err ∧
      (reading position frames edge).finish = rebuild (.broken cause) frames) ∨
    ∃ operand, ∀ position frames,
      (reading position frames edge).finish = unclosed operand frames ∧
        ∀ operator : Operator, [' ', operator.char].foldl step (reading position frames edge) =
          stepOperator (position + 1) frames operand operator.char := by
  cases edge with
  | operand => exact .inl fun _ _ => ⟨.endOfFormula, rfl, rfl⟩
  | arguments function scan => exact .inl fun _ _ => ⟨.unterminatedArguments, rfl, rfl⟩
  | operator operand => exact .inr ⟨operand, fun _ _ => ⟨rfl, fun _ => rfl⟩⟩
  | numeral scan =>
      have blank : scan.step? ' ' = none := by simp [NumeralScan.step?, Text.isDigit]
      refine .inr ⟨scan.operand, fun _ _ => ⟨rfl, fun _ => ?_⟩⟩
      simp only [List.foldl_cons, List.foldl_nil, step, blank]
      rfl
  | letters name =>
      refine .inr ⟨bareWord name, fun _ _ => ⟨rfl, fun operator => ?_⟩⟩
      cases operator <;> rfl
  | spacedLetters name =>
      refine .inr ⟨bareWord name, fun _ _ => ⟨rfl, fun operator => ?_⟩⟩
      cases operator <;> rfl
  | reference name => exact .inr ⟨.reference name.reverse, fun _ _ => ⟨rfl, fun _ => rfl⟩⟩

theorem foldl_trailing (formula : Formula) (position : Nat) (rest text : Text) :
    text.foldl step (trailing formula position rest) =
      trailing formula position (text.reverse ++ rest) := by
  induction text generalizing rest with
  | nil => rfl
  | cons c text inductionHypothesis =>
      rw [List.foldl_cons, step, inductionHypothesis, List.reverse_cons, List.append_assoc,
        List.singleton_append]

/-- A failure with a code of its own comes before anything is missed at the end of the text, so
it is the same failure where an operation and any further text follow. -/
theorem Stacked.foretells {reader : Reader} (stacked : reader.Stacked) (operator : Operator)
    (after : Text) (call : Nat → Text → List Text → Query Number) (room : Nat) :
    Foretells (reader.finish.evaluate call room)
      (((' ' :: operator.char :: after).foldl Reader.step reader).finish.evaluate call room) := by
  cases reader with
  | stopped formula =>
      rw [foldl_stopped]
      exact .refl _
  | trailing formula position rest =>
      rw [foldl_trailing]
      have begins : Foretells ((trailing formula position rest).finish.evaluate call room)
          (formula.evaluate call room) :=
        Query.bind_foretells _ fun _ => Query.foretells_error rfl _
      exact begins.trans (Query.foretells_bind _ _)
  | reading position frames edge =>
      rcases operation_cases edge with missing | ⟨operand, read⟩
      · obtain ⟨cause, general, ends⟩ := missing position frames
        obtain ⟨around, within, same⟩ := isContext_rebuild_place frames
        obtain ⟨context, inner, operand, further, continued⟩ :=
          surrounds_foldl position frames edge (' ' :: operator.char :: after)
        have begins := fill_broken_foretells call room around general
        rw [within, ← same (.broken cause)] at begins
        rw [ends, continued]
        exact begins.trans (reach_foretells_fill call room context inner further operand)
      · obtain ⟨ends, goesOn⟩ := read position frames
        -- the operand becomes part of the first operand of the operation
        have longer :
            (' ' :: operator.char :: after).foldl Reader.step (reading position frames edge) =
              after.foldl Reader.step
                (stepOperator (position + 1) frames operand operator.char) :=
          congrArg (after.foldl Reader.step) (goesOn operator)
        have pushed := stepOperator_char (position + 1) frames operand operator
        have accepts := accepts_close operator.strength operand frames
        have closedStacked := @stacked_close _ operand operator.strength stacked
        rw [ends, longer, pushed, ← unclosed_close operator.strength]
        generalize (close operator.strength operand frames).1 = first at *
        generalize (close operator.strength operand frames).2 = waiting at *
        obtain ⟨context, within, same⟩ := ((Open.frame (position + 2) [] .place operator waiting
          .operand (List.nil_append waiting)).foldl_step after).finish
        refine (unclosed_foretells call room accepts closedStacked first).trans ?_
        have continued := operand_foretells_fill call room context first
        rw [within, ← same first] at continued
        exact continued

end Reader

end Spreadsheet
