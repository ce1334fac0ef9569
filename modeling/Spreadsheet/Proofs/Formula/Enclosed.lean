import Spreadsheet.Proofs.Formula.Balance
import Spreadsheet.Proofs.Formula.Position
import Spreadsheet.Proofs.Formula.Whole

/-!
# Formulas in parentheses

A text with balanced parentheses may stand in parentheses of its own.  It is then read in the
same way, only that a group is open around all of it, and the formula is the group of what the
text alone stands for.  This is so for texts that are no formulas, too: where such a text goes
wrong, it goes wrong in both places, though not always for the same cause.  The reason is that
reading keeps count of the parentheses: as many groups and arguments are open in it as there are
parentheses open in the text, unless it has gone wrong.
-/

namespace Spreadsheet

/-- The text in parentheses. -/
def Text.enclosed (text : Text) : Text :=
  '(' :: (text ++ [')'])

/-! ## The depth of reading -/

/-- How many of the frames are groups. -/
def Frame.groups : List Frame → Nat
  | [] => 0
  | .sign _ :: frames => groups frames
  | .left _ _ :: frames => groups frames
  | .group :: frames => groups frames + 1

/-- How many parentheses are open in the token at which reading stands. -/
def Edge.depth : Edge → Nat
  | .arguments _ scan => scan.depth + 1
  | _ => 0

/-- The number of open parentheses behind a character. -/
def Text.depthAfter (c : Char) (depth : Nat) : Nat :=
  if c = '(' then depth + 1 else if c = ')' then depth - 1 else depth

theorem Text.closes_cons {c : Char} {rest : Text} {depth : Nat}
    (closes : Text.closes true (c :: rest) depth = true) :
    (c = ')' → depth ≠ 0) ∧ rest.closes true (depthAfter c depth) = true := by
  rw [Text.closes] at closes
  rw [depthAfter]
  by_cases opens : c = '('
  · rw [if_pos opens] at closes ⊢
    exact ⟨fun shuts => absurd (opens.symm.trans shuts) (by decide), closes⟩
  rw [if_neg opens] at closes ⊢
  by_cases shuts : c = ')'
  · rw [if_pos shuts, Bool.and_eq_true, decide_eq_true_iff] at closes
    rw [if_pos shuts]
    exact ⟨fun _ => closes.1, closes.2⟩
  · rw [if_neg shuts, Bool.and_eq_true] at closes
    rw [if_neg shuts]
    exact ⟨fun shuts' => absurd shuts' shuts, closes.2⟩

theorem Text.not_parenthesis_of {property : Char → Bool} {c : Char} (has : property c = true)
    (opening : property '(' = false) (closing : property ')' = false) : c ≠ '(' ∧ c ≠ ')' := by
  constructor
  · rintro rfl
    exact Bool.false_ne_true (opening.symm.trans has)
  · rintro rfl
    exact Bool.false_ne_true (closing.symm.trans has)

namespace Reader

variable {frames : List Frame} {operand : Formula} {depth : Nat} {reader : Reader}

/-- So many parentheses are open where reading stands, if it goes on. -/
def HasDepth (depth : Nat) : Reader → Prop
  | .reading _ frames edge => Frame.groups frames + edge.depth = depth
  | _ => True

theorem hasDepth_next {next : Reader} {c : Char} (plain : c ≠ '(' ∧ c ≠ ')')
    (same : next.HasDepth depth) : next.HasDepth (Text.depthAfter c depth) := by
  rwa [Text.depthAfter, if_neg plain.1, if_neg plain.2]

theorem groups_close (strength : Nat) :
    Frame.groups (close strength operand frames).2 = Frame.groups frames := by
  induction frames generalizing operand with
  | nil => rfl
  | cons frame frames inductionHypothesis =>
      cases frame with
      | sign sign => exact inductionHypothesis
      | left first operator =>
          by_cases closes : strength ≤ operator.strength
          · rw [close, if_pos closes]
            exact inductionHypothesis
          · rw [close, if_neg closes]
      | group => rfl

/-- Behind an operand a closing parenthesis closes a group, and no other character changes what
is open. -/
theorem hasDepth_stepOperator (position : Nat) (c : Char)
    (groups : Frame.groups frames = depth) :
    (stepOperator position frames operand c).HasDepth (Text.depthAfter c depth) := by
  rcases stepOperator_cases position frames operand c with ⟨gap, skipped⟩ |
    ⟨operator, operation, pushed⟩ | ⟨outer, waiting, rfl, closed⟩ | ⟨-, complete⟩ |
    ⟨outer, -, -, stops⟩
  · rw [skipped]
    exact hasDepth_next (Text.not_parenthesis_of gap rfl rfl) groups
  · have plain : c ≠ '(' ∧ c ≠ ')' := by
      constructor <;> (rintro rfl; cases operation)
    rw [pushed]
    exact hasDepth_next plain ((groups_close operator.strength).trans groups)
  · have waitingGroups := (@groups_close _ operand 0).trans groups
    rw [waiting] at waitingGroups
    rw [closed, ← waitingGroups]
    rfl
  · rw [complete]
    trivial
  · rw [stops]
    trivial

/-- Where an operand must come only an opening parenthesis changes what is open. -/
theorem hasDepth_stepOperand (position : Nat) (c : Char) (groups : Frame.groups frames = depth) :
    (stepOperand position frames c).HasDepth (Text.depthAfter c depth) := by
  rw [stepOperand]
  by_cases gap : Text.isGap c = true
  · rw [if_pos gap]
    exact hasDepth_next (Text.not_parenthesis_of gap rfl rfl) groups
  rw [if_neg gap]
  by_cases plus : c = '+'
  · subst plus
    exact groups
  rw [if_neg plus]
  by_cases minus : c = '-'
  · subst minus
    exact groups
  rw [if_neg minus]
  by_cases opens : c = '('
  · subst opens
    exact congrArg (· + 1) groups
  rw [if_neg opens]
  by_cases starts : NumeralScan.starts c = true
  · rw [if_pos starts]
    exact hasDepth_next (Text.not_parenthesis_of starts rfl rfl) groups
  rw [if_neg starts]
  by_cases letter : Text.isLetter c = true
  · rw [if_pos letter]
    exact hasDepth_next (Text.not_parenthesis_of letter rfl rfl) groups
  · rw [if_neg letter]
    trivial

/-- An argument list keeps count of the parentheses in it until it is closed. -/
theorem hasDepth_stepArguments (position : Nat) (function : Text) (scan : ArgumentScan) (c : Char)
    (groups : Frame.groups frames + (scan.depth + 1) = depth) :
    ((reading position frames (.arguments function scan)).step c).HasDepth
      (Text.depthAfter c depth) := by
  subst groups
  rw [step, ArgumentScan.step, Text.depthAfter]
  by_cases opens : c = '('
  · simp only [if_pos opens]
    rfl
  simp only [if_neg opens]
  by_cases closes : c = ')'
  · simp only [if_pos closes]
    cases inner : scan.depth with
    | zero => rfl
    | succ outer => rfl
  simp only [if_neg closes]
  by_cases separates : (c = ',' && scan.depth = 0) = true
  · rw [Bool.and_eq_true, decide_eq_true_iff, decide_eq_true_iff] at separates
    simp only [separates]
    rfl
  · simp only [if_neg separates]
    rfl

theorem HasDepth.step (hasDepth : reader.HasDepth depth) (c : Char) :
    (reader.step c).HasDepth (Text.depthAfter c depth) := by
  cases reader with
  | trailing formula position rest => trivial
  | stopped formula => trivial
  | reading position frames edge =>
      cases edge with
      | operand => exact hasDepth_stepOperand position c hasDepth
      | operator operand => exact hasDepth_stepOperator position c hasDepth
      | arguments function scan => exact hasDepth_stepArguments position function scan c hasDepth
      | numeral scan =>
          rw [Reader.step]
          cases goesOn : scan.step? c with
          | none => exact hasDepth_stepOperator position c hasDepth
          | some next =>
              have plain : c ≠ '(' ∧ c ≠ ')' := by
                constructor <;> (rintro rfl; simp [NumeralScan.step?, Text.isDigit] at goesOn)
              exact hasDepth_next plain hasDepth
      | letters name =>
          -- only the parenthesis that opens an argument list is part of the token
          rw [Reader.step]
          by_cases letter : Text.isLetter c = true
          · rw [if_pos letter]
            exact hasDepth_next (Text.not_parenthesis_of letter rfl rfl) hasDepth
          rw [if_neg letter]
          by_cases digit : Text.isDigit c = true
          · rw [if_pos digit]
            exact hasDepth_next (Text.not_parenthesis_of digit rfl rfl) hasDepth
          rw [if_neg digit]
          by_cases opens : c = '('
          · subst opens
            exact congrArg (· + 1) hasDepth
          rw [if_neg opens]
          by_cases gap : Text.isGap c = true
          · rw [if_pos gap]
            exact hasDepth_next (Text.not_parenthesis_of gap rfl rfl) hasDepth
          · rw [if_neg gap]
            exact hasDepth_stepOperator position c hasDepth
      | spacedLetters name =>
          rw [Reader.step]
          by_cases gap : Text.isGap c = true
          · rw [if_pos gap]
            exact hasDepth_next (Text.not_parenthesis_of gap rfl rfl) hasDepth
          rw [if_neg gap]
          by_cases opens : c = '('
          · subst opens
            exact congrArg (· + 1) hasDepth
          · rw [if_neg opens]
            exact hasDepth_stepOperator position c hasDepth
      | reference name =>
          rw [Reader.step]
          by_cases digit : Text.isDigit c = true
          · rw [if_pos digit]
            exact hasDepth_next (Text.not_parenthesis_of digit rfl rfl) hasDepth
          · rw [if_neg digit]
            exact hasDepth_stepOperator position c hasDepth

/-! ## A group around everything -/

@[simp] theorem rebuild_append_group (operand : Formula) (frames : List Frame) :
    rebuild operand (frames ++ [.group]) = .group (rebuild operand frames) := by
  induction frames generalizing operand with
  | nil => rfl
  | cons frame frames inductionHypothesis =>
      cases frame with
      | sign sign => exact inductionHypothesis _
      | left first operator => exact inductionHypothesis _
      | group => exact inductionHypothesis _

/-- Closing operations does not get past a group, be it the outermost one. -/
theorem close_append_group (strength : Nat) (operand : Formula) (frames : List Frame) :
    close strength operand (frames ++ [.group]) =
      ((close strength operand frames).1, (close strength operand frames).2 ++ [.group]) := by
  induction frames generalizing operand with
  | nil => rfl
  | cons frame frames inductionHypothesis =>
      cases frame with
      | sign sign => exact inductionHypothesis _
      | left first operator =>
          rw [List.cons_append]
          by_cases closes : strength ≤ operator.strength
          · rw [close, close, if_pos closes, if_pos closes]
            exact inductionHypothesis _
          · rw [close, close, if_neg closes, if_neg closes]
            rfl
      | group => rfl

/-- The second reader has read a text in a group that the first has read alone.  Where the first
has come to something that it cannot read behind a complete formula, the second misses the end
of the group. -/
inductive Encloses : Reader → Reader → Prop where
  | reading (position position' : Nat) (frames : List Frame) (edge : Edge) :
      Encloses (.reading position frames edge) (.reading position' (frames ++ [.group]) edge)
  | trailing (formula : Formula) (position : Nat) (rest : Text) :
      Encloses (.trailing formula position rest)
        (.stopped (.group (.halted formula .missingParenthesis)))
  | stopped {formula other : Formula} (same : formula.SameButWording other) :
      Encloses (.stopped formula) (.stopped (.group other))

theorem encloses_stepOperator (position position' : Nat) (c : Char)
    (opened : c = ')' → Frame.groups frames ≠ 0) :
    Encloses (stepOperator position frames operand c)
      (stepOperator position' (frames ++ [.group]) operand c) := by
  simp only [stepOperator]
  by_cases gap : Text.isGap c = true
  · simp only [if_pos gap]
    exact .reading _ _ frames _
  simp only [if_neg gap]
  cases operator? c with
  | some operator =>
      simp only [close_append_group]
      exact .reading _ _ (.left _ operator :: _) .operand
  | none =>
      simp only [close_append_group]
      have waitingGroups := @groups_close frames operand 0
      rcases close_zero_cases operand frames with outermost | ⟨outer, waiting⟩
      · rw [outermost] at waitingGroups
        -- a closing parenthesis would close the group around everything
        have unclosed : c ≠ ')' := fun closing => opened closing waitingGroups.symm
        simp only [outermost, List.nil_append, if_neg unclosed]
        exact .trailing _ _ _
      · simp only [waiting, List.cons_append]
        by_cases closing : c = ')'
        · simp only [if_pos closing]
          exact .reading _ _ outer _
        · simp only [if_neg closing, ← List.cons_append, rebuild_append_group]
          exact .stopped (.refl _)

theorem encloses_stepOperand (position position' : Nat) (frames : List Frame) (c : Char) :
    Encloses (stepOperand position frames c) (stepOperand position' (frames ++ [.group]) c) := by
  simp only [stepOperand]
  repeat' split
  · exact .reading _ _ frames _
  · exact .reading _ _ (.sign .plus :: frames) _
  · exact .reading _ _ (.sign .minus :: frames) _
  · exact .reading _ _ (.group :: frames) _
  · exact .reading _ _ frames _
  · exact .reading _ _ frames _
  · rw [rebuild_append_group]
    have same : (Cause.unexpectedChar c position).code = (Cause.unexpectedChar c position').code :=
      rfl
    exact .stopped ((Formula.SameButWording.broken same).rebuild frames)

theorem depth_of_not_arguments {edge : Edge}
    (outside : ¬∃ function scan, edge = .arguments function scan) : edge.depth = 0 := by
  cases edge with
  | arguments function scan => exact absurd ⟨function, scan, rfl⟩ outside
  | _ => rfl

variable {other : Reader}

/-- One more character keeps the group around everything, unless it closes a parenthesis where
none is open. -/
theorem Encloses.step (encloses : Encloses reader other) (hasDepth : reader.HasDepth depth)
    (c : Char) (opened : c = ')' → depth ≠ 0) : Encloses (reader.step c) (other.step c) := by
  cases encloses with
  | trailing formula position rest => exact .trailing formula position (c :: rest)
  | stopped same => exact .stopped same
  | reading position position' frames edge =>
      by_cases inArguments : ∃ function scan, edge = .arguments function scan
      · obtain ⟨function, scan, rfl⟩ := inArguments
        simp only [Reader.step]
        cases scan.step c with
        | more next => exact .reading _ _ frames _
        | closed arguments => exact .reading _ _ frames _
      have outside := depth_of_not_arguments inArguments
      rcases step_cases edge c with rfl | ⟨next, goesOn⟩ | ⟨operand, behind⟩
      · exact encloses_stepOperand position position' frames c
      · rw [goesOn, goesOn]
        exact .reading _ _ frames next
      · rw [behind, behind]
        refine encloses_stepOperator position position' c fun closing none => ?_
        have depthZero : Frame.groups frames + edge.depth = 0 := by rw [none, outside]
        exact opened closing (hasDepth.symm.trans depthZero)

theorem Encloses.foldl_step (encloses : Encloses reader other) (hasDepth : reader.HasDepth depth)
    {text : Text} (closes : text.closes true depth = true) :
    (text.foldl Reader.step reader).HasDepth 0 ∧
      Encloses (text.foldl Reader.step reader) (text.foldl Reader.step other) := by
  induction text generalizing reader other depth with
  | nil =>
      obtain rfl : depth = 0 := of_decide_eq_true closes
      exact ⟨hasDepth, encloses⟩
  | cons c text inductionHypothesis =>
      obtain ⟨opened, rest⟩ := Text.closes_cons closes
      exact inductionHypothesis (encloses.step hasDepth c opened) (hasDepth.step c) rest

/-- Behind an operand the end of the text is as good as the end of the group. -/
theorem sameButWording_stepOperator (position : Nat) (operand : Formula)
    (outside : Frame.groups frames = 0) :
    (Formula.group (unclosed operand frames)).SameButWording
      (stepOperator position (frames ++ [.group]) operand ')').finish := by
  have waitingGroups := (@groups_close frames operand 0).trans outside
  rcases close_zero_cases operand frames with outermost | ⟨outer, waiting⟩
  · have closed : stepOperator position (frames ++ [.group]) operand ')' =
        .reading (position + 1) [] (.operator (.group (close 0 operand frames).1)) := by
      simp [stepOperator, Text.isGap, operator?, close_append_group, outermost]
    rw [closed, unclosed, outermost]
    exact .refl _
  · rw [waiting] at waitingGroups
    exact absurd waitingGroups (Nat.succ_ne_zero _)

/-- A closing parenthesis comes behind a whole operand, unless an operand is still missing or
the parenthesis stands in an argument list. -/
theorem closing_cases {edge : Edge} (outside : edge.depth = 0) :
    edge = .operand ∨
    ∃ operand, ∀ position frames,
      (reading position frames edge).finish = unclosed operand frames ∧
        (reading position frames edge).step ')' = stepOperator position frames operand ')' := by
  cases edge with
  | operand => exact .inl rfl
  | arguments function scan => exact absurd outside (Nat.succ_ne_zero _)
  | operator operand => exact .inr ⟨operand, fun _ _ => ⟨rfl, rfl⟩⟩
  | numeral scan =>
      have ends : scan.step? ')' = none := by simp [NumeralScan.step?, Text.isDigit]
      refine .inr ⟨scan.operand, fun _ _ => ⟨rfl, ?_⟩⟩
      simp only [step, ends]
  | letters name => exact .inr ⟨bareWord name, fun _ _ => ⟨rfl, rfl⟩⟩
  | spacedLetters name => exact .inr ⟨bareWord name, fun _ _ => ⟨rfl, rfl⟩⟩
  | reference name => exact .inr ⟨.reference name.reverse, fun _ _ => ⟨rfl, rfl⟩⟩

/-- When all is read, the closing parenthesis of the group makes the formula that was read alone
its content. -/
theorem Encloses.finish (encloses : Encloses reader other) (hasDepth : reader.HasDepth 0) :
    (Formula.group reader.finish).SameButWording (other.step ')').finish := by
  cases encloses with
  | trailing formula position rest =>
      have same : (Cause.unexpectedRest rest.reverse position).code =
          Cause.missingParenthesis.code := rfl
      exact (Formula.SameButWording.halted formula same).group
  | stopped same => exact same.group
  | reading position position' frames edge =>
      -- no group is open, so that the parenthesis closes the one around everything
      obtain ⟨noGroups, outside⟩ := Nat.add_eq_zero_iff.mp hasDepth
      rcases closing_cases outside with rfl | ⟨operand, ends⟩
      · have stops : (Reader.reading position' (frames ++ [.group]) .operand).step ')' =
            .stopped (rebuild (.broken (.unexpectedChar ')' position')) (frames ++ [.group])) :=
          rfl
        have same : Cause.endOfFormula.code = (Cause.unexpectedChar ')' position').code := rfl
        rw [stops, rebuild_append_group]
        exact ((Formula.SameButWording.broken same).rebuild frames).group
      · rw [(ends position frames).1, (ends position' _).2]
        exact sameButWording_stepOperator position' operand noGroups

end Reader

/-- A text in parentheses stands for the group of what the text stands for alone, up to the
wording of a failure. -/
theorem Formula.ofText_enclosed {text : Text} (balanced : Balanced true text) :
    (Formula.group (ofText text)).SameButWording (ofText text.enclosed) := by
  have begins : Reader.Encloses .start (.reading 1 [.group] .operand) :=
    .reading 0 1 [] .operand
  obtain ⟨hasDepth, encloses⟩ := begins.foldl_step (show Reader.start.HasDepth 0 from rfl)
    (closes_iff_balanced.mpr balanced)
  have ends := encloses.finish hasDepth
  rw [ofText, ofText, Text.enclosed, List.foldl_cons, List.foldl_append]
  exact ends

end Spreadsheet
