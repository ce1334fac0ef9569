import Spreadsheet.Proofs.Formula.Reading

/-!
# Readings that have not gone wrong

A formula is whole if it has no place where its text went wrong, and if the names
of the functions that it calls are known.  What has gone wrong in reading stays in
the formula, wherever the text goes on to: if the formula of a text is whole in the
end, then reading was whole after every character.
-/

namespace Spreadsheet

variable {known : Text → Prop}

/-- The text did not go wrong, and all functions called are known. -/
def Formula.Whole (known : Text → Prop) : Formula → Prop
  | number _ => True
  | reference _ => True
  | signed _ operand => operand.Whole known
  | binary _ left right => left.Whole known ∧ right.Whole known
  | group inner => inner.Whole known
  | call function _ => known function
  | broken _ => False
  | halted _ _ => False

/-- What waits for an operand is whole so far. -/
def Frame.Whole (known : Text → Prop) : Frame → Prop
  | .left operand _ => operand.Whole known
  | _ => True

/-- The operand at which reading stands is whole. -/
def Edge.Whole (known : Text → Prop) : Edge → Prop
  | .operator formula => formula.Whole known
  | _ => True

/-- Reading has not gone wrong. -/
def Reader.Whole (known : Text → Prop) : Reader → Prop
  | .reading _ frames edge => (∀ frame ∈ frames, frame.Whole known) ∧ edge.Whole known
  | .trailing _ _ _ => False
  | .stopped formula => formula.Whole known

namespace Reader

variable {operand : Formula} {frames : List Frame}

/-- What is left after closing does not bind as tightly. -/
theorem accepts_close (strength : Nat) (operand : Formula) (frames : List Frame) :
    Frame.Accept strength (close strength operand frames).2 := by
  induction frames generalizing operand with
  | nil => trivial
  | cons frame frames inductionHypothesis =>
      cases frame with
      | sign sign => exact inductionHypothesis _
      | left first operator =>
          rw [close]
          by_cases closes : strength ≤ operator.strength
          · rw [if_pos closes]
            exact inductionHypothesis _
          · rw [if_neg closes]
            exact Nat.lt_of_not_le closes
      | group => trivial

theorem close_zero_cases (operand : Formula) (frames : List Frame) :
    (close 0 operand frames).2 = [] ∨ ∃ outer, (close 0 operand frames).2 = .group :: outer := by
  have accepts := accepts_close 0 operand frames
  match (close 0 operand frames).2, accepts with
  | [], _ => exact .inl rfl
  | .group :: outer, _ => exact .inr ⟨outer, rfl⟩
  | .left _ _ :: _, impossible => exact absurd impossible (Nat.not_lt_zero _)
  | .sign _ :: _, impossible => exact absurd impossible (Nat.not_lt_zero _)

/-- Behind an operand a character is skipped, pushes an operation, closes a group, comes behind
the complete formula, or is where a group misses its closing parenthesis. -/
theorem stepOperator_cases (position : Nat) (frames : List Frame) (operand : Formula) (c : Char) :
    (Text.isGap c = true ∧ stepOperator position frames operand c =
      reading (position + 1) frames (.operator operand)) ∨
    (∃ operator, operator? c = some operator ∧ stepOperator position frames operand c =
      reading (position + 1) (.left (close operator.strength operand frames).1 operator ::
        (close operator.strength operand frames).2) .operand) ∨
    (∃ outer, (close 0 operand frames).2 = .group :: outer ∧ c = ')' ∧
      stepOperator position frames operand c =
        reading (position + 1) outer (.operator (.group (close 0 operand frames).1))) ∨
    ((close 0 operand frames).2 = [] ∧
      stepOperator position frames operand c = trailing (close 0 operand frames).1 position [c]) ∨
    ∃ outer, (close 0 operand frames).2 = .group :: outer ∧ c ≠ ')' ∧
      stepOperator position frames operand c =
        stopped (rebuild (.halted (close 0 operand frames).1 .missingParenthesis)
          (.group :: outer)) := by
  rw [stepOperator]
  by_cases gap : Text.isGap c = true
  · exact .inl ⟨gap, if_pos gap⟩
  rw [if_neg gap]
  cases operator? c with
  | some operator => exact .inr (.inl ⟨operator, rfl, rfl⟩)
  | none =>
      rcases close_zero_cases operand frames with outermost | ⟨outer, waiting⟩
      · refine .inr (.inr (.inr (.inl ⟨outermost, ?_⟩)))
        simp only [outermost]
      · by_cases closing : c = ')'
        · refine .inr (.inr (.inl ⟨outer, waiting, closing, ?_⟩))
          simp only [waiting, if_pos closing]
        · refine .inr (.inr (.inr (.inr ⟨outer, waiting, closing, ?_⟩)))
          simp only [waiting, if_neg closing]

theorem whole_of_close (strength : Nat)
    (operandWhole : (close strength operand frames).1.Whole known)
    (framesWhole : ∀ frame ∈ (close strength operand frames).2, frame.Whole known) :
    operand.Whole known ∧ ∀ frame ∈ frames, frame.Whole known := by
  induction frames generalizing operand with
  | nil => exact ⟨operandWhole, framesWhole⟩
  | cons frame frames inductionHypothesis =>
      cases frame with
      | sign sign =>
          obtain ⟨signed, later⟩ := inductionHypothesis operandWhole framesWhole
          exact ⟨signed, List.forall_mem_cons.mpr ⟨trivial, later⟩⟩
      | left first operator =>
          rw [close] at operandWhole framesWhole
          by_cases closes : strength ≤ operator.strength
          · rw [if_pos closes] at operandWhole framesWhole
            obtain ⟨⟨firstWhole, whole⟩, later⟩ :=
              inductionHypothesis operandWhole framesWhole
            exact ⟨whole, List.forall_mem_cons.mpr ⟨firstWhole, later⟩⟩
          · rw [if_neg closes] at operandWhole framesWhole
            exact ⟨operandWhole, framesWhole⟩
      | group => exact ⟨operandWhole, framesWhole⟩

theorem whole_of_rebuild (whole : (rebuild operand frames).Whole known) :
    operand.Whole known ∧ ∀ frame ∈ frames, frame.Whole known := by
  induction frames generalizing operand with
  | nil => exact ⟨whole, List.forall_mem_nil _⟩
  | cons frame frames inductionHypothesis =>
      cases frame with
      | sign sign =>
          obtain ⟨signed, later⟩ := inductionHypothesis whole
          exact ⟨signed, List.forall_mem_cons.mpr ⟨trivial, later⟩⟩
      | left first operator =>
          obtain ⟨⟨firstWhole, operandWhole⟩, later⟩ := inductionHypothesis whole
          exact ⟨operandWhole, List.forall_mem_cons.mpr ⟨firstWhole, later⟩⟩
      | group =>
          obtain ⟨inner, later⟩ := inductionHypothesis whole
          exact ⟨inner, List.forall_mem_cons.mpr ⟨trivial, later⟩⟩

theorem close_of_whole_unclosed (whole : (unclosed operand frames).Whole known) :
    (close 0 operand frames).2 = [] ∧ (close 0 operand frames).1.Whole known := by
  simp only [unclosed] at whole
  cases waiting : (close 0 operand frames).2 with
  | nil =>
      rw [waiting] at whole
      exact ⟨rfl, whole⟩
  | cons frame outer =>
      rw [waiting] at whole
      exact absurd (whole_of_rebuild whole).1 id

theorem whole_of_unclosed (whole : (unclosed operand frames).Whole known) :
    operand.Whole known ∧ ∀ frame ∈ frames, frame.Whole known := by
  obtain ⟨none, closed⟩ := close_of_whole_unclosed whole
  apply whole_of_close 0 closed
  rw [none]
  exact List.forall_mem_nil _

theorem whole_of_stepOperator {position : Nat} {c : Char}
    (whole : (stepOperator position frames operand c).Whole known) :
    operand.Whole known ∧ ∀ frame ∈ frames, frame.Whole known := by
  rcases stepOperator_cases position frames operand c with ⟨-, skipped⟩ | ⟨operator, -, pushed⟩ |
    ⟨outer, waiting, -, closed⟩ | ⟨-, complete⟩ | ⟨outer, -, -, stops⟩
  · rw [skipped] at whole
    exact ⟨whole.2, whole.1⟩
  · rw [pushed] at whole
    obtain ⟨closed, later⟩ := List.forall_mem_cons.mp whole.1
    exact whole_of_close operator.strength closed later
  · rw [closed] at whole
    obtain ⟨later, inner⟩ := whole
    apply whole_of_close 0 inner
    rw [waiting]
    exact List.forall_mem_cons.mpr ⟨trivial, later⟩
  · rw [complete] at whole
    cases whole
  · rw [stops] at whole
    exact absurd (whole_of_rebuild whole).1 id

theorem whole_of_stepOperand {position : Nat} {c : Char}
    (whole : (stepOperand position frames c).Whole known) :
    ∀ frame ∈ frames, frame.Whole known := by
  rw [stepOperand] at whole
  repeat' split at whole
  · exact whole.1
  · exact (List.forall_mem_cons.mp whole.1).2
  · exact (List.forall_mem_cons.mp whole.1).2
  · exact (List.forall_mem_cons.mp whole.1).2
  · exact whole.1
  · exact whole.1
  · exact (whole_of_rebuild whole).2

/-- If reading is whole after a character, it was whole before. -/
theorem whole_of_step {reader : Reader} {c : Char} (whole : (reader.step c).Whole known) :
    reader.Whole known := by
  cases reader with
  | trailing formula position rest => exact whole
  | stopped formula => exact whole
  | reading position frames edge =>
      cases edge with
      | operand => exact ⟨whole_of_stepOperand whole, trivial⟩
      | operator operand =>
          obtain ⟨operandWhole, framesWhole⟩ := whole_of_stepOperator whole
          exact ⟨framesWhole, operandWhole⟩
      | numeral scan =>
          simp only [step] at whole
          split at whole
          · exact ⟨whole.1, trivial⟩
          · exact ⟨(whole_of_stepOperator whole).2, trivial⟩
      | letters name =>
          simp only [step] at whole
          repeat' split at whole
          · exact ⟨whole.1, trivial⟩
          · exact ⟨whole.1, trivial⟩
          · exact ⟨whole.1, trivial⟩
          · exact ⟨whole.1, trivial⟩
          · exact ⟨(whole_of_stepOperator whole).2, trivial⟩
      | spacedLetters name =>
          simp only [step] at whole
          repeat' split at whole
          · exact ⟨whole.1, trivial⟩
          · exact ⟨whole.1, trivial⟩
          · exact ⟨(whole_of_stepOperator whole).2, trivial⟩
      | reference name =>
          simp only [step] at whole
          split at whole
          · exact ⟨whole.1, trivial⟩
          · exact ⟨(whole_of_stepOperator whole).2, trivial⟩
      | arguments function scan =>
          simp only [step] at whole
          split at whole
          · exact ⟨whole.1, trivial⟩
          · exact ⟨whole.1, trivial⟩

theorem whole_of_foldl {reader : Reader} {text : Text}
    (whole : (text.foldl step reader).Whole known) : reader.Whole known := by
  induction text generalizing reader with
  | nil => exact whole
  | cons c text inductionHypothesis => exact whole_of_step (inductionHypothesis whole)

theorem whole_of_finish {reader : Reader} (whole : reader.finish.Whole known) :
    reader.Whole known := by
  cases reader with
  | trailing formula position rest => exact whole
  | stopped formula => exact whole
  | reading position frames edge =>
      cases edge with
      | operand => exact absurd (whole_of_rebuild whole).1 id
      | operator operand =>
          obtain ⟨operandWhole, framesWhole⟩ := whole_of_unclosed whole
          exact ⟨framesWhole, operandWhole⟩
      | arguments function scan => exact absurd (whole_of_rebuild whole).1 id
      | numeral scan => exact ⟨(whole_of_unclosed whole).2, trivial⟩
      | letters name => exact ⟨(whole_of_unclosed whole).2, trivial⟩
      | spacedLetters name => exact ⟨(whole_of_unclosed whole).2, trivial⟩
      | reference name => exact ⟨(whole_of_unclosed whole).2, trivial⟩

end Reader

end Spreadsheet
