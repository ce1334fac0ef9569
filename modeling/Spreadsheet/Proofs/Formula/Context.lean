import Spreadsheet.Formula.Evaluation
import Spreadsheet.Formula.Reader
import Spreadsheet.Proofs.Formula.Whole
import Spreadsheet.Proofs.Query.Run

/-!
# Formulas around an operand

A formula that holds an operand in one place is a context around it.  Evaluating the formula
reaches the place with some of the room left and then goes on with the value found there;
what happens on either side does not depend on the operand.  Whatever is read behind an
operand puts it into a context, and this context does not depend on the operand either.  The
way to the place is given by the frames that were open when the operand was read.
-/

namespace Spreadsheet

/-- A formula with one place left for an operand. -/
inductive Formula.Context where
  | place
  | signed (sign : Sign) (operand : Context)
  | left (operator : Operator) (left : Context) (right : Formula)
  | right (operator : Operator) (left : Formula) (right : Context)
  | group (inner : Context)
  | halted (start : Context) (cause : Cause)

namespace Formula.Context

/-- The formula with the operand in its place. -/
def fill : Context → Formula → Formula
  | place, operand => operand
  | signed sign context, operand => .signed sign (context.fill operand)
  | left operator context second, operand => .binary operator (context.fill operand) second
  | right operator first context, operand => .binary operator first (context.fill operand)
  | group context, operand => .group (context.fill operand)
  | halted context cause, operand => .halted (context.fill operand) cause

/-- The frames that are open at the place when the formula is read, the innermost first. -/
def frames : Context → List Frame
  | place => []
  | signed sign context => context.frames ++ [.sign sign]
  | left _ context _ => context.frames
  | right operator first context => context.frames ++ [.left first operator]
  | group context => context.frames ++ [.group]
  | halted context _ => context.frames

/-- Evaluate what comes before the place.  The result is the room that is left there and what
is to be done with the value of the operand. -/
def approach (call : Nat → Text → List Text → Query Number) :
    Nat → Context → Query (Nat × (Number → Query Number))
  | room, place => .done (room, .done)
  | room, signed sign context => Query.within Nesting.sign room fun rest => do
      let (inner, later) ← approach call rest context
      pure (inner, fun value => sign.apply <$> later value)
  | room, left operator context second => do
      let (inner, later) ← approach call room context
      pure (inner, fun value => do
        let first ← later value
        let divisor ← second.evaluate call room
        operator.apply first divisor)
  | room, right operator first context => do
      let value ← first.evaluate call room
      let (inner, later) ← approach call room context
      pure (inner, fun second => later second >>= operator.apply value)
  | room, group context =>
      Query.within Nesting.group room fun rest => approach call rest context
  | room, halted context cause => do
      let (inner, later) ← approach call room context
      pure (inner, fun value => do
        let _ ← later value
        Query.error cause)

/-- The formula is evaluated by coming to the place, evaluating the operand in the room that is
left there, and going on with its value. -/
theorem evaluate_fill (call : Nat → Text → List Text → Query Number) (context : Context)
    (operand : Formula) (room : Nat) :
    (context.fill operand).evaluate call room =
      context.approach call room >>= fun here => operand.evaluate call here.1 >>= here.2 := by
  induction context generalizing room with
  | place => exact (bind_pure (operand.evaluate call room)).symm
  | signed sign context inductionHypothesis =>
      simp only [fill, evaluate, approach, Query.within_bind, inductionHypothesis, map_bind,
        bind_assoc, pure_bind]
  | left operator context second inductionHypothesis =>
      simp only [fill, evaluate, approach, inductionHypothesis, bind_assoc, pure_bind]
  | right operator first context inductionHypothesis =>
      simp only [fill, evaluate, approach, inductionHypothesis, bind_assoc, pure_bind]
  | group context inductionHypothesis =>
      simp only [fill, evaluate, approach, Query.within_bind, inductionHypothesis]
  | halted context cause inductionHypothesis =>
      simp only [fill, evaluate, approach, inductionHypothesis, bind_assoc, pure_bind]

end Formula.Context

/-- Evaluate the operands of frames, from the outermost frame to the innermost.  The result is
the room that is left inside. -/
def Frame.reach (call : Nat → Text → List Text → Query Number) (room : Nat) :
    List Frame → Query Nat
  | [] => .done room
  | .sign _ :: frames => do
      let inner ← reach call room frames
      Query.within Nesting.sign inner .done
  | .left first _ :: frames => do
      let inner ← reach call room frames
      let _ ← first.evaluate call inner
      pure inner
  | .group :: frames => do
      let inner ← reach call room frames
      Query.within Nesting.group inner .done

theorem Frame.reach_append (call : Nat → Text → List Text → Query Number) (room : Nat)
    (inner outer : List Frame) :
    reach call room (inner ++ outer) =
      reach call room outer >>= fun rest => reach call rest inner := by
  induction inner with
  | nil => exact (bind_pure (reach call room outer)).symm
  | cons frame inner inductionHypothesis =>
      cases frame with
      | sign sign => simp only [List.cons_append, reach, inductionHypothesis, bind_assoc]
      | left first operator => simp only [List.cons_append, reach, inductionHypothesis, bind_assoc]
      | group => simp only [List.cons_append, reach, inductionHypothesis, bind_assoc]

/-- What comes before the place is evaluated frame by frame. -/
theorem Formula.Context.fst_approach (call : Nat → Text → List Text → Query Number)
    (context : Context) (room : Nat) :
    Prod.fst <$> context.approach call room = Frame.reach call room context.frames := by
  induction context generalizing room with
  | place => rfl
  | signed sign context inductionHypothesis =>
      simp only [approach, frames, Frame.reach_append, Frame.reach, ← inductionHypothesis,
        map_eq_pure_bind, Query.within_bind, bind_assoc, pure_bind, Query.bind_done]
  | left operator context second inductionHypothesis =>
      simp only [approach, frames, ← inductionHypothesis, map_eq_pure_bind, bind_assoc, pure_bind]
  | right operator first context inductionHypothesis =>
      simp only [approach, frames, Frame.reach_append, Frame.reach, ← inductionHypothesis,
        map_eq_pure_bind, bind_assoc, pure_bind, Query.bind_done]
  | group context inductionHypothesis =>
      simp only [approach, frames, Frame.reach_append, Frame.reach, ← inductionHypothesis,
        map_eq_pure_bind, Query.within_bind, Query.bind_done]
  | halted context cause inductionHypothesis =>
      simp only [approach, frames, ← inductionHypothesis, map_eq_pure_bind, bind_assoc, pure_bind]

namespace Reader

open Formula (Context)

variable {operand : Formula} {around : List Frame}

/-! ## Operands that wait to be closed -/

/-- An operand and the frames around it, with a place in the operand or in one of the
frames.  The frames that are open at the place are `around`. -/
inductive Pending (around : List Frame) : (Formula → Formula × List Frame) → Prop where
  | operand (context : Context) (frames : List Frame)
      (within : context.frames ++ frames = around) :
      Pending around fun filling => (context.fill filling, frames)
  | frame (operand : Formula) (inner : List Frame) (context : Context) (operator : Operator)
      (outer : List Frame) (within : context.frames ++ outer = around) :
      Pending around fun filling =>
        (operand, inner ++ .left (context.fill filling) operator :: outer)

theorem pending_close_operand (strength : Nat) (context : Context) (frames : List Frame)
    (within : context.frames ++ frames = around) :
    Pending around fun filling => close strength (context.fill filling) frames := by
  induction frames generalizing context with
  | nil => exact .operand context [] within
  | cons frame frames inductionHypothesis =>
      cases frame with
      | sign sign =>
          refine inductionHypothesis (.signed sign context) ?_
          rw [Context.frames, List.append_assoc]
          exact within
      | left first operator =>
          by_cases closes : strength ≤ operator.strength
          · simp only [close, if_pos closes]
            refine inductionHypothesis (.right operator first context) ?_
            rw [Context.frames, List.append_assoc]
            exact within
          · simp only [close, if_neg closes]
            exact .operand context _ within
      | group => exact .operand context _ within

theorem pending_close_frame (strength : Nat) (operand : Formula) (inner : List Frame)
    (context : Context) (operator : Operator) (outer : List Frame)
    (within : context.frames ++ outer = around) :
    Pending around fun filling =>
      close strength operand (inner ++ .left (context.fill filling) operator :: outer) := by
  induction inner generalizing operand with
  | nil =>
      by_cases closes : strength ≤ operator.strength
      · simp only [List.nil_append, close, if_pos closes]
        exact pending_close_operand strength (.left operator context operand) outer within
      · simp only [List.nil_append, close, if_neg closes]
        exact .frame operand [] context operator outer within
  | cons frame inner inductionHypothesis =>
      cases frame with
      | sign sign => exact inductionHypothesis (.signed sign operand)
      | left first other =>
          by_cases closes : strength ≤ other.strength
          · simp only [List.cons_append, close, if_pos closes]
            exact inductionHypothesis (.binary other first operand)
          · simp only [List.cons_append, close, if_neg closes]
            exact .frame operand (.left first other :: inner) context operator outer within
      | group => exact .frame operand (.group :: inner) context operator outer within

theorem Pending.close {pending : Formula → Formula × List Frame}
    (placed : Pending around pending) (strength : Nat) :
    Pending around fun filling =>
      Reader.close strength (pending filling).1 (pending filling).2 := by
  cases placed with
  | operand context frames within => exact pending_close_operand strength context frames within
  | frame operand inner context operator outer within =>
      exact pending_close_frame strength operand inner context operator outer within

/-- The formulas are those of a context whose place is in the frames. -/
def IsContext (around : List Frame) (formula : Formula → Formula) : Prop :=
  ∃ whole : Context, whole.frames = around ∧ ∀ filling, formula filling = whole.fill filling

theorem isContext_rebuild (context : Context) (frames : List Frame)
    (within : context.frames ++ frames = around) :
    IsContext around fun filling => rebuild (context.fill filling) frames := by
  induction frames generalizing context with
  | nil => exact ⟨context, (List.append_nil _).symm.trans within, fun _ => rfl⟩
  | cons frame frames inductionHypothesis =>
      cases frame with
      | sign sign =>
          refine inductionHypothesis (.signed sign context) ?_
          rw [Context.frames, List.append_assoc]
          exact within
      | left first operator =>
          refine inductionHypothesis (.right operator first context) ?_
          rw [Context.frames, List.append_assoc]
          exact within
      | group =>
          refine inductionHypothesis (.group context) ?_
          rw [Context.frames, List.append_assoc]
          exact within

/-- The formula that is made of the operand and all frames around it has the place. -/
theorem Pending.rebuild {pending : Formula → Formula × List Frame}
    (placed : Pending around pending) :
    IsContext around fun filling => Reader.rebuild (pending filling).1 (pending filling).2 := by
  cases placed with
  | operand context frames within => exact isContext_rebuild context frames within
  | frame operand inner context operator outer within =>
      induction inner generalizing operand with
      | nil => exact isContext_rebuild (.left operator context operand) outer within
      | cons frame inner inductionHypothesis =>
          cases frame with
          | sign sign => exact inductionHypothesis (.signed sign operand)
          | left first other => exact inductionHypothesis (.binary other first operand)
          | group => exact inductionHypothesis (.group operand)

/-! ## Reading behind the place -/

/-- Something that has been read, with a place in it. -/
inductive Open (around : List Frame) : (Formula → Reader) → Prop where
  | operand (position : Nat) (context : Context) (frames : List Frame)
      (within : context.frames ++ frames = around) :
      Open around fun filling => reading position frames (.operator (context.fill filling))
  | frame (position : Nat) (inner : List Frame) (context : Context) (operator : Operator)
      (outer : List Frame) (edge : Edge) (within : context.frames ++ outer = around) :
      Open around fun filling =>
        reading position (inner ++ .left (context.fill filling) operator :: outer) edge
  | trailing (context : Context) (position : Nat) (rest : Text)
      (within : context.frames = around) :
      Open around fun filling => trailing (context.fill filling) position rest
  | stopped (context : Context) (within : context.frames = around) :
      Open around fun filling => stopped (context.fill filling)

theorem Open.of_stopped {formula : Formula → Formula} (isContext : IsContext around formula) :
    Open around fun filling => Reader.stopped (formula filling) := by
  obtain ⟨context, within, same⟩ := isContext
  simp only [same]
  exact .stopped context within

theorem Pending.reading {pending : Formula → Formula × List Frame}
    (placed : Pending around pending) (position : Nat) (operator : Operator) :
    Open around fun filling =>
      reading position (.left (pending filling).1 operator :: (pending filling).2) .operand := by
  cases placed with
  | operand context frames within => exact .frame position [] context operator frames _ within
  | frame operand inner context other outer within =>
      exact .frame position (.left operand operator :: inner) context other outer _ within

/-- A character that is no operator ends a group or stops reading. -/
theorem Pending.shut {pending : Formula → Formula × List Frame} (placed : Pending around pending)
    (outermost : ∀ filling,
      (pending filling).2 = [] ∨ ∃ outer, (pending filling).2 = .group :: outer)
    (position : Nat) (c : Char) :
    Open around fun filling =>
      match (pending filling).2 with
      | [] => .trailing (pending filling).1 position [c]
      | _ :: outer =>
          if c = ')' then .reading (position + 1) outer (.operator (.group (pending filling).1))
          else .stopped (Reader.rebuild (.halted (pending filling).1 .missingParenthesis)
            (pending filling).2) := by
  cases placed with
  | operand context frames within =>
      cases frames with
      | nil => exact .trailing context position [c] ((List.append_nil _).symm.trans within)
      | cons frame outer =>
          rcases outermost (.broken .endOfFormula) with impossible | ⟨_, same⟩
          · cases impossible
          cases same
          by_cases closing : c = ')'
          · simp only [if_pos closing]
            refine .operand _ (.group context) outer ?_
            rw [Context.frames, List.append_assoc]
            exact within
          · simp only [if_neg closing]
            exact Open.of_stopped
              (isContext_rebuild (.halted context .missingParenthesis) (.group :: outer) within)
  | frame operand inner context operator outer within =>
      cases inner with
      | nil =>
          -- a frame with an operand would have been closed
          rcases outermost (.broken .endOfFormula) with impossible | ⟨_, impossible⟩
          · cases impossible
          · cases impossible
      | cons frame inner =>
          by_cases closing : c = ')'
          · simp only [List.cons_append, if_pos closing]
            exact .frame _ inner context operator outer _ within
          · simp only [List.cons_append, if_neg closing]
            exact Open.of_stopped (Pending.frame (.halted operand .missingParenthesis)
              (frame :: inner) context operator outer within).rebuild

theorem Pending.stepOperator {pending : Formula → Formula × List Frame}
    (placed : Pending around pending) (position : Nat) (c : Char) :
    Open around fun filling =>
      Reader.stepOperator position (pending filling).2 (pending filling).1 c := by
  by_cases gap : Text.isGap c = true
  · simp only [Reader.stepOperator, if_pos gap]
    cases placed with
    | operand context frames within => exact .operand (position + 1) context frames within
    | frame operand inner context operator outer within =>
        exact .frame (position + 1) inner context operator outer (.operator operand) within
  · simp only [Reader.stepOperator, if_neg gap]
    cases operator? c with
    | some operator => exact (placed.close operator.strength).reading (position + 1) operator
    | none => exact (placed.close 0).shut (fun _ => close_zero_cases _ _) position c

theorem open_stepOperand (position : Nat) (inner : List Frame) (context : Context)
    (operator : Operator) (outer : List Frame) (c : Char)
    (within : context.frames ++ outer = around) :
    Open around fun filling =>
      stepOperand position (inner ++ .left (context.fill filling) operator :: outer) c := by
  have goesOn (added : List Frame) (edge : Edge) : Open around fun filling => reading
      (position + 1) (added ++ (inner ++ .left (context.fill filling) operator :: outer)) edge := by
    simp only [← List.append_assoc]
    exact .frame _ (added ++ inner) context operator outer edge within
  have stops (cause : Cause) : Open around fun filling => stopped (rebuild (.broken cause)
      (inner ++ .left (context.fill filling) operator :: outer)) :=
    Open.of_stopped (Pending.frame (.broken cause) inner context operator outer within).rebuild
  simp only [stepOperand]
  repeat' split
  · exact goesOn [] _
  · exact goesOn [.sign .plus] _
  · exact goesOn [.sign .minus] _
  · exact goesOn [.group] _
  · exact goesOn [] _
  · exact goesOn [] _
  · exact stops _

/-- Every character that is read behind the place keeps it. -/
theorem Open.step {reader : Formula → Reader} (placed : Open around reader) (c : Char) :
    Open around fun filling => (reader filling).step c := by
  cases placed with
  | operand position context frames within =>
      exact (Pending.operand context frames within).stepOperator position c
  | trailing context position rest within => exact .trailing context position (c :: rest) within
  | stopped context within => exact .stopped context within
  | frame position inner context operator outer edge within =>
      rcases step_cases edge c with rfl | ⟨next, goesOn⟩ | ⟨operand, behind⟩
      · exact open_stepOperand position inner context operator outer c within
      · simp only [goesOn]
        exact .frame (position + 1) inner context operator outer next within
      · simp only [behind]
        exact (Pending.frame operand inner context operator outer within).stepOperator position c

theorem Open.foldl_step {reader : Formula → Reader} (placed : Open around reader) (text : Text) :
    Open around fun filling => text.foldl Reader.step (reader filling) := by
  induction text generalizing reader with
  | nil => exact placed
  | cons c text inductionHypothesis => exact inductionHypothesis (placed.step c)

/-! ## The end of the text -/

/-- When all has been closed, the place is in the whole formula or in a group that has no
end. -/
theorem Pending.settled {pending : Formula → Formula × List Frame}
    (placed : Pending around pending)
    (outermost : ∀ filling,
      (pending filling).2 = [] ∨ ∃ outer, (pending filling).2 = .group :: outer) :
    IsContext around fun filling =>
      match (pending filling).2 with
      | [] => (pending filling).1
      | waiting => Reader.rebuild (.halted (pending filling).1 .missingParenthesis) waiting := by
  cases placed with
  | operand context frames within =>
      cases frames with
      | nil => exact ⟨context, (List.append_nil _).symm.trans within, fun _ => rfl⟩
      | cons frame outer =>
          exact isContext_rebuild (.halted context .missingParenthesis) (frame :: outer) within
  | frame operand inner context operator outer within =>
      cases inner with
      | nil =>
          rcases outermost (.broken .endOfFormula) with impossible | ⟨_, impossible⟩
          · cases impossible
          · cases impossible
      | cons frame inner =>
          exact (Pending.frame (.halted operand .missingParenthesis) (frame :: inner) context
            operator outer within).rebuild

theorem Pending.unclosed {pending : Formula → Formula × List Frame}
    (placed : Pending around pending) :
    IsContext around fun filling => Reader.unclosed (pending filling).1 (pending filling).2 :=
  (placed.close 0).settled fun _ => close_zero_cases _ _

/-- At the end of the text the formula is a context of the operand. -/
theorem Open.finish {reader : Formula → Reader} (placed : Open around reader) :
    IsContext around fun filling => (reader filling).finish := by
  cases placed with
  | operand position context frames within =>
      exact (Pending.operand context frames within).unclosed
  | frame position inner context operator outer edge within =>
      have settles (operand : Formula) :=
        (Pending.frame operand inner context operator outer within).unclosed
      have breaks (cause : Cause) :=
        (Pending.frame (.broken cause) inner context operator outer within).rebuild
      cases edge with
      | operand => exact breaks .endOfFormula
      | operator operand => exact settles operand
      | numeral scan => exact settles scan.operand
      | letters name => exact settles (bareWord name)
      | spacedLetters name => exact settles (bareWord name)
      | reference name => exact settles (.reference name.reverse)
      | arguments function scan => exact breaks .unterminatedArguments
  | trailing context position rest within =>
      exact ⟨.halted context (.unexpectedRest rest.reverse position), within, fun _ => rfl⟩
  | stopped context within => exact ⟨context, within, fun _ => rfl⟩

/-- An operand that has just been read is in a context, whatever is read behind it.  The
context depends on what is read before and behind the operand, and not on the operand. -/
theorem exists_context (position : Nat) (frames : List Frame) (after : Text) :
    ∃ context : Context, context.frames = frames ∧ ∀ operand,
      (after.foldl step (reading position frames (.operator operand))).finish =
        context.fill operand :=
  ((Open.operand position .place frames rfl).foldl_step after).finish

end Reader

end Spreadsheet
