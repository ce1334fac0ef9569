import Spreadsheet.Proofs.Formula.Whole

/-!
# Only what the grammar writes is read

Reading a text is sound: what has been read so far, as long as nothing has gone
wrong, is written by expressions that wait in the frames, and by a token or operand
behind them.  When the text ends and its formula is whole, the text writes an
expression.

`Reader.Stack` and `Edge.Spells` describe what has been read.  A frame that waits
for its right operand has a left operand that binds tightly enough, and the frames
around it take the operation without being closed by it; so closing frames makes
expressions of the grammar.
-/

namespace Spreadsheet

variable {known : Text → Prop}

/-! ## Expressions with proper calls -/

/-- All calls are of known functions, and none has a lone argument of nothing but
blanks and tabs, which is written like no argument. -/
def Expression.Proper (known : Text → Prop) : Expression → Prop
  | number _ => True
  | reference _ _ => True
  | signed _ operand => operand.Proper known
  | binary _ left right => left.Proper known ∧ right.Proper known
  | group inner => inner.Proper known
  | call function arguments =>
      known (Text.upper function.text) ∧
        ∀ argument, arguments = [argument] → argument.all Text.isGap = false

/-- A run of letters with one more. -/
def Letters.grow (letters : Letters) {c : Char} (letter : Text.isLetter c = true) : Letters where
  text := letters.text ++ [c]
  nonempty := List.append_ne_nil_of_right_ne_nil _ (List.cons_ne_nil _ _)
  all := Text.all_snoc letters.all letter

/-- A run of digits with one more. -/
def Digits.grow (digits : Digits) {c : Char} (digit : Text.isDigit c = true) : Digits where
  text := digits.text ++ [c]
  nonempty := List.append_ne_nil_of_right_ne_nil _ (List.cons_ne_nil _ _)
  all := Text.all_snoc digits.all digit

/-- What binds tightly binds less tightly, too. -/
theorem Expression.Renders.mono {strength stronger : Nat} {expression : Expression}
    {text : Text} (renders : expression.Renders stronger text) (le : strength ≤ stronger) :
    expression.Renders strength text := by
  induction le with
  | refl => exact renders
  | step _ inductionHypothesis => exact inductionHypothesis (.weaken renders)

/-! ## Argument texts in the making -/

theorem Balanced.append {commas : Bool} {text text' : Text} (balanced : Balanced commas text)
    (balanced' : Balanced commas text') : Balanced commas (text ++ text') := by
  induction balanced with
  | nil commas => exact balanced'
  | char unopened unclosed plain _ inductionHypothesis =>
      exact .char unopened unclosed plain (inductionHypothesis balanced')
  | @parentheses commas inner rest inside _ _ inductionHypothesis =>
      rw [List.cons_append, List.append_assoc, List.cons_append]
      exact .parentheses inside (inductionHypothesis balanced')

/-- The beginning of a balanced text without commas outside of parentheses, in which so
many parentheses are open. -/
inductive Opened : (depth : Nat) → Text → Prop where
  | shut {text : Text} (balanced : Balanced false text) : Opened 0 text
  | deeper {depth : Nat} {before inner : Text} (opened : Opened depth before)
      (balanced : Balanced true inner) : Opened (depth + 1) (before ++ '(' :: inner)

namespace Opened

variable {depth : Nat} {text : Text}

theorem char {c : Char} (opened : Opened depth text) (unopened : c ≠ '(') (unclosed : c ≠ ')')
    (plain : ¬ (c = ',' && depth = 0) = true) : Opened depth (text ++ [c]) := by
  cases opened with
  | shut balanced =>
      have other : c ≠ ',' := by
        rintro rfl
        exact plain rfl
      exact .shut (balanced.append (.char unopened unclosed (.inr other) (.nil false)))
  | deeper opened balanced =>
      rw [List.append_assoc, List.cons_append]
      exact .deeper opened (balanced.append (.char unopened unclosed (.inl rfl) (.nil true)))

theorem opening (opened : Opened depth text) : Opened (depth + 1) (text ++ ['(']) :=
  .deeper opened (.nil true)

theorem closing (opened : Opened (depth + 1) text) : Opened depth (text ++ [')']) := by
  cases opened with
  | @deeper _ before inner outer balanced =>
      have closed {commas : Bool} : Balanced commas ('(' :: (inner ++ [')'])) :=
        .parentheses balanced (.nil commas)
      rw [List.append_assoc, List.cons_append]
      cases outer with
      | shut around => exact .shut (around.append closed)
      | deeper around middle =>
          rw [List.append_assoc, List.cons_append]
          exact .deeper around (middle.append closed)

theorem balanced (opened : Opened 0 text) : Balanced false text := by
  cases opened with
  | shut balanced => exact balanced

end Opened

/-- The texts of the arguments with a comma behind each. -/
def Arguments.ended (arguments : List Text) : Text :=
  arguments.flatMap fun argument => argument ++ [',']

theorem Arguments.text_append_singleton (finished : List Text) (current : Text) :
    text (finished ++ [current]) = ended finished ++ current := by
  induction finished with
  | nil => rfl
  | cons argument finished inductionHypothesis =>
      rw [List.cons_append]
      cases written : finished ++ [current] with
      | nil => exact absurd written (by simp)
      | cons next rest =>
          rw [text, ← written, inductionHypothesis]
          simp [ended]

/-! ## What has been read -/

/-- The text writes frames that wait for an operand.  A gap may stand behind each of
them, and the left operand of an operation closes no frame around it. -/
inductive Reader.Stack (known : Text → Prop) : List Frame → Text → Prop where
  | nil {gap : Text} (blank : gap.all Text.isGap = true) : Stack known [] gap
  | sign (sign : Sign) {frames : List Frame} {before gap : Text}
      (stack : Stack known frames before) (blank : gap.all Text.isGap = true) :
      Stack known (.sign sign :: frames) (before ++ sign.char :: gap)
  | left (operator : Operator) {frames : List Frame} {left : Expression}
      {before text gap behind : Text} (stack : Stack known frames before)
      (accepts : Frame.Accept operator.strength frames)
      (renders : left.Renders operator.strength text) (proper : left.Proper known)
      (blank : gap.all Text.isGap = true) (blankBehind : behind.all Text.isGap = true) :
      Stack known (.left left.formula operator :: frames)
        (before ++ (text ++ (gap ++ operator.char :: behind)))
  | group {frames : List Frame} {before gap : Text} (stack : Stack known frames before)
      (blank : gap.all Text.isGap = true) :
      Stack known (.group :: frames) (before ++ '(' :: gap)

/-- The text writes the token or operand at which reading stands. -/
inductive Edge.Spells (known : Text → Prop) : Edge → Text → Prop where
  | operand : Spells known .operand []
  | numeral {scan : NumeralScan} {c : Char} {rest : Text} (read : scan.read.reverse = c :: rest)
      (starts : NumeralScan.starts c = true) : Spells known (.numeral scan) (c :: rest)
  | letters (letters : Letters) : Spells known (.letters letters.text.reverse) letters.text
  | spacedLetters (letters : Letters) {gap : Text} (blank : gap.all Text.isGap = true) :
      Spells known (.spacedLetters letters.text.reverse) (letters.text ++ gap)
  | reference (column : Letters) (row : Digits) :
      Spells known (.reference (column.text ++ row.text).reverse) (column.text ++ row.text)
  | arguments (function : Letters) {gap current : Text} {finished : List Text} {depth : Nat}
      (blank : gap.all Text.isGap = true)
      (balanced : ∀ argument ∈ finished, Balanced false argument)
      (opened : Opened depth current) :
      Spells known (.arguments (Text.upper function.text)
          ⟨(finished.map Text.strip).reverse, current.reverse, depth⟩)
        (function.text ++ (gap ++ '(' :: (Arguments.ended finished ++ current)))
  | operator {operand : Expression} {text gap : Text}
      (renders : operand.Renders Expression.operandStrength text)
      (proper : operand.Proper known) (blank : gap.all Text.isGap = true) :
      Spells known (.operator operand.formula) (text ++ gap)

/-- The text is what has been read. -/
def Reader.Spells (known : Text → Prop) : Reader → Text → Prop
  | .reading _ frames edge, text =>
      ∃ before rest, Stack known frames before ∧ edge.Spells known rest ∧ text = before ++ rest
  | _, _ => False

namespace Reader

variable {frames : List Frame} {before : Text} {position : Nat} {c : Char}

theorem accepts_operandStrength (frames : List Frame) :
    Frame.Accept Expression.operandStrength frames := by
  match frames with
  | [] => trivial
  | .group :: _ => trivial
  | .left _ operator :: _ =>
      change operator.strength < 3
      cases operator <;> decide
  | .sign _ :: _ => exact Nat.lt_succ_self 2

/-- Closing frames around an operand makes an expression of them. -/
theorem Stack.close {strength : Nat} {operand : Expression} {text : Text} {closing : Nat}
    (stack : Stack known frames before) (accepts : Frame.Accept strength frames)
    (renders : operand.Renders strength text) (proper : operand.Proper known)
    (operation : 1 ≤ strength) (le : closing ≤ strength)
    (small : closing ≤ Expression.operandStrength) :
    ∃ (closed : Expression) (binds : Nat) (outer : List Frame) (around inside : Text),
      Reader.close closing operand.formula frames = (closed.formula, outer) ∧
        Stack known outer around ∧ closed.Renders binds inside ∧ closed.Proper known ∧
          1 ≤ binds ∧ closing ≤ binds ∧ before ++ text = around ++ inside := by
  induction stack generalizing strength operand text with
  | nil blank =>
      exact ⟨operand, strength, [], _, text, rfl, .nil blank, renders, proper, operation, le, rfl⟩
  | group stack blank =>
      exact ⟨operand, strength, _, _, text, rfl, .group stack blank, renders, proper, operation,
        le, rfl⟩
  | @sign sign frames before gap stack blank inductionHypothesis =>
      have tight : Expression.operandStrength ≤ strength := accepts
      have signed := Expression.Renders.signed sign blank (renders.mono tight)
      obtain ⟨closed, binds, outer, around, inside, closes, rest⟩ :=
        inductionHypothesis (accepts_operandStrength frames)
          signed proper (by decide) small
      refine ⟨closed, binds, outer, around, inside, closes, ?_⟩
      rw [List.append_assoc, List.cons_append]
      exact rest
  | @left operator frames left before leftText gap behind stack outerAccepts leftRenders
      leftProper blank blankBehind inductionHypothesis =>
      by_cases closes : closing ≤ operator.strength
      · have positive : 1 ≤ operator.strength := by cases operator <;> decide
        have binary := Expression.Renders.binary operator leftRenders blank blankBehind
          (renders.mono accepts)
        obtain ⟨closed, binds, outer, around, inside, same, rest⟩ :=
          inductionHypothesis outerAccepts binary
            ⟨leftProper, proper⟩ positive closes
        refine ⟨closed, binds, outer, around, inside, ?_, ?_⟩
        · rw [Reader.close, if_pos closes]
          exact same
        · simp only [List.append_assoc, List.cons_append] at rest ⊢
          exact rest
      · refine ⟨operand, strength, _, _, text, ?_, .left operator stack outerAccepts leftRenders
          leftProper blank blankBehind, renders, proper, operation, le, rfl⟩
        rw [Reader.close, if_neg closes]

theorem Stack.gap (stack : Stack known frames before) (blank : Text.isGap c = true) :
    Stack known frames (before ++ [c]) := by
  have longer {gap : Text} (all : gap.all Text.isGap = true) :
      (gap ++ [c]).all Text.isGap = true := Text.all_snoc all blank
  cases stack with
  | nil all => exact .nil (longer all)
  | sign sign stack all =>
      rw [List.append_assoc, List.cons_append]
      exact .sign sign stack (longer all)
  | left operator stack accepts renders proper all allBehind =>
      rw [List.append_assoc, List.append_assoc, List.append_assoc, List.cons_append]
      exact .left operator stack accepts renders proper all (longer allBehind)
  | group stack all =>
      rw [List.append_assoc, List.cons_append]
      exact .group stack (longer all)

theorem operator?_eq_some {operator : Operator} (operation : operator? c = some operator) :
    c = operator.char := by
  rw [operator?] at operation
  repeat' split at operation
  all_goals cases operation
  all_goals assumption

theorem spells_operation (position : Nat) (operator : Operator) {operand : Expression}
    {text gap : Text} (stack : Stack known frames before)
    (renders : operand.Renders Expression.operandStrength text) (proper : operand.Proper known)
    (blank : gap.all Text.isGap = true) :
    (reading position (.left (close operator.strength operand.formula frames).1 operator ::
      (close operator.strength operand.formula frames).2) .operand).Spells known
        (before ++ (text ++ gap) ++ [operator.char]) := by
  have small : operator.strength ≤ Expression.operandStrength := by cases operator <;> decide
  obtain ⟨closed, binds, outer, around, inside, closes, outerStack, insideRenders,
      insideProper, -, le, same⟩ :=
    stack.close (accepts_operandStrength frames) renders proper (by decide) small small
  have outerAccepts := accepts_close operator.strength operand.formula frames
  rw [closes] at outerAccepts
  rw [closes]
  refine ⟨_, [], .left operator outerStack outerAccepts (insideRenders.mono le)
    insideProper blank List.all_nil, .operand, ?_⟩
  rw [← List.append_assoc before, same]
  simp only [List.append_assoc, List.append_nil]

theorem spells_closing (position : Nat) {operand : Expression} {text gap : Text}
    {outer : List Frame} (stack : Stack known frames before)
    (renders : operand.Renders Expression.operandStrength text) (proper : operand.Proper known)
    (blank : gap.all Text.isGap = true)
    (waiting : (close 0 operand.formula frames).2 = .group :: outer) :
    (reading position outer (.operator (.group (close 0 operand.formula frames).1))).Spells known
      (before ++ (text ++ gap) ++ [')']) := by
  obtain ⟨closed, binds, _, around, inside, closes, outerStack, insideRenders,
      insideProper, positive, -, same⟩ :=
    stack.close (accepts_operandStrength frames) renders proper (by decide) (Nat.zero_le _)
      (Nat.zero_le _)
  rw [closes] at waiting ⊢
  cases waiting
  cases outerStack with
  | @group _ around gapBefore groupStack blankBefore =>
      have group := Expression.Renders.group blankBefore blank (insideRenders.mono positive)
      refine ⟨around, _, groupStack, .operator group insideProper List.all_nil, ?_⟩
      rw [← List.append_assoc before, same]
      simp only [List.append_assoc, List.cons_append, List.append_nil]

theorem spells_stepOperator {operand : Expression} {text gap : Text}
    (stack : Stack known frames before)
    (renders : operand.Renders Expression.operandStrength text) (proper : operand.Proper known)
    (blank : gap.all Text.isGap = true)
    (whole : (stepOperator position frames operand.formula c).Whole known) :
    (stepOperator position frames operand.formula c).Spells known
      (before ++ (text ++ gap) ++ [c]) := by
  rw [stepOperator] at whole ⊢
  by_cases gapBehind : Text.isGap c = true
  · rw [if_pos gapBehind]
    have longer : (gap ++ [c]).all Text.isGap = true := Text.all_snoc blank gapBehind
    refine ⟨before, text ++ (gap ++ [c]), stack, .operator renders proper longer, ?_⟩
    simp only [List.append_assoc]
  rw [if_neg gapBehind] at whole ⊢
  cases operation : operator? c with
  | some operator =>
      cases operator?_eq_some operation
      exact spells_operation (position + 1) operator stack renders proper blank
  | none =>
      rw [operation] at whole
      simp only at whole ⊢
      rcases close_zero_cases operand.formula frames with outermost | ⟨outer, waiting⟩
      · rw [outermost] at whole
        cases whole
      · rw [waiting] at whole ⊢
        by_cases closing : c = ')'
        · simp only [if_pos closing]
          subst closing
          exact spells_closing (position + 1) stack renders proper blank waiting
        · simp only [if_neg closing] at whole
          exact absurd (whole_of_rebuild whole).1 id

theorem spells_stepOperand (stack : Stack known frames before)
    (whole : (stepOperand position frames c).Whole known) :
    (stepOperand position frames c).Spells known (before ++ [c]) := by
  have none : ([] : Text).all Text.isGap = true := rfl
  rw [stepOperand] at whole ⊢
  by_cases gap : Text.isGap c = true
  · rw [if_pos gap]
    exact ⟨before ++ [c], [], stack.gap gap, .operand, (List.append_nil _).symm⟩
  rw [if_neg gap] at whole ⊢
  by_cases plus : c = '+'
  · rw [if_pos plus]
    subst plus
    exact ⟨_, [], .sign .plus stack none, .operand, (List.append_nil _).symm⟩
  rw [if_neg plus] at whole ⊢
  by_cases minus : c = '-'
  · rw [if_pos minus]
    subst minus
    exact ⟨_, [], .sign .minus stack none, .operand, (List.append_nil _).symm⟩
  rw [if_neg minus] at whole ⊢
  by_cases parenthesis : c = '('
  · rw [if_pos parenthesis]
    subst parenthesis
    exact ⟨_, [], .group stack none, .operand, (List.append_nil _).symm⟩
  rw [if_neg parenthesis] at whole ⊢
  by_cases starts : NumeralScan.starts c = true
  · rw [if_pos starts]
    exact ⟨before, [c], stack, .numeral rfl starts, rfl⟩
  rw [if_neg starts] at whole ⊢
  by_cases letter : Text.isLetter c = true
  · rw [if_pos letter]
    exact ⟨before, [c], stack, .letters (.single c letter), rfl⟩
  rw [if_neg letter] at whole
  exact absurd (whole_of_rebuild whole).1 id

/-- A number that has been read to its end is a numeral. -/
theorem operand_of_numeral {scan : NumeralScan} {rest : Text}
    (read : scan.read.reverse = c :: rest) (starts : NumeralScan.starts c = true)
    (whole : scan.operand.Whole known) :
    ∃ numeral : Numeral, scan.operand = (Expression.number numeral).formula ∧
      numeral.text = c :: rest := by
  rw [NumeralScan.operand, read] at whole ⊢
  cases value : Number.ofText? (c :: rest) with
  | none =>
      rw [value] at whole
      cases whole
  | some number =>
      obtain ⟨numeral, written⟩ := Numeral.exists_of_ofText? starts value
      have same := numeral.ofText?_text
      rw [written, value] at same
      cases same
      exact ⟨numeral, rfl, written⟩

theorem call_of_closed {function : Letters} {gap current : Text} {finished : List Text}
    (blank : gap.all Text.isGap = true)
    (balanced : ∀ argument ∈ finished, Balanced false argument) (opened : Opened 0 current)
    (knows : known (Text.upper function.text)) :
    ∃ call : Expression,
      call.Renders Expression.operandStrength
          (function.text ++ (gap ++ '(' :: (Arguments.ended finished ++ current ++ [')']))) ∧
        call.Proper known ∧
          call.formula = .call (Text.upper function.text)
            (ArgumentScan.close ⟨(finished.map Text.strip).reverse, current.reverse, 0⟩) := by
  have all : ∀ argument ∈ finished ++ [current], Balanced false argument :=
    List.forall_mem_append.mpr ⟨balanced, List.forall_mem_singleton.mpr opened.balanced⟩
  have renders := Expression.Renders.call function blank all
  rw [Arguments.text_append_singleton] at renders
  cases finished with
  | nil =>
      have passed : ArgumentScan.close ⟨[], current.reverse, 0⟩ = Arguments.passed [current] := by
        rw [close_last, if_pos rfl]
      by_cases bare : current.all Text.isGap = true
      · refine ⟨.call function [], .bareCall function blank bare, ⟨knows, nofun⟩, ?_⟩
        rw [List.map_nil, List.reverse_nil, passed, Arguments.passed, if_pos bare]
        rfl
      · refine ⟨.call function [current], renders, ⟨knows, ?_⟩, ?_⟩
        · rintro argument ⟨⟩
          exact Bool.eq_false_iff.mpr bare
        · rw [List.map_nil, List.reverse_nil, passed]
          rfl
  | cons first finished =>
      refine ⟨.call function (first :: finished ++ [current]), renders, ⟨knows, ?_⟩, ?_⟩
      · intro argument same
        exact absurd (List.cons.inj same).2 (by simp)
      · have several : ((first :: finished).map Text.strip).reverse ≠ [] := by simp
        rw [close_last, if_neg several, List.reverse_reverse]
        cases written : finished ++ [current] with
        | nil => exact absurd written (by simp)
        | cons next rest =>
            rw [Expression.formula, List.cons_append, written, Arguments.passed, ← written,
              List.map_cons, List.map_cons, List.map_append, List.cons_append]
            rfl

theorem spells_stepArguments {function : Letters} {gap current : Text} {finished : List Text}
    {depth : Nat} (stack : Stack known frames before) (blank : gap.all Text.isGap = true)
    (balanced : ∀ argument ∈ finished, Balanced false argument) (opened : Opened depth current)
    (whole : ((reading position frames (.arguments (Text.upper function.text)
      ⟨(finished.map Text.strip).reverse, current.reverse, depth⟩)).step c).Whole known) :
    ((reading position frames (.arguments (Text.upper function.text)
      ⟨(finished.map Text.strip).reverse, current.reverse, depth⟩)).step c).Spells known
        (before ++ (function.text ++ (gap ++ '(' :: (Arguments.ended finished ++ current))) ++
          [c]) := by
  -- The character goes on with the current argument.
  have goesOn {next : Nat} (longer : Opened next (current ++ [c])) :
      (reading (position + 1) frames (.arguments (Text.upper function.text)
        ⟨(finished.map Text.strip).reverse, c :: current.reverse, next⟩)).Spells known
          (before ++ (function.text ++ (gap ++ '(' :: (Arguments.ended finished ++ current))) ++
            [c]) := by
    have edge : Edge.Spells known _ _ := .arguments function blank balanced longer
    rw [List.reverse_append] at edge
    refine ⟨before, _, stack, edge, ?_⟩
    simp only [List.append_assoc, List.cons_append]
  simp only [step, ArgumentScan.step] at whole ⊢
  by_cases opens : c = '('
  · simp only [if_pos opens]
    subst opens
    exact goesOn opened.opening
  simp only [if_neg opens] at whole ⊢
  by_cases closes : c = ')'
  · simp only [if_pos closes] at whole ⊢
    subst closes
    cases depth with
    | succ outer => exact goesOn opened.closing
    | zero =>
        obtain ⟨call, renders, proper, formula⟩ :=
          call_of_closed blank balanced opened whole.2
        have edge := Edge.Spells.operator renders proper List.all_nil
        rw [formula] at edge
        refine ⟨before, _, stack, edge, ?_⟩
        simp only [List.append_assoc, List.cons_append, List.append_nil]
  simp only [if_neg closes] at whole ⊢
  by_cases separates : (c = ',' && depth = 0) = true
  · simp only [if_pos separates]
    simp only [Bool.and_eq_true, decide_eq_true_eq] at separates
    obtain ⟨rfl, rfl⟩ := separates
    have all : ∀ argument ∈ finished ++ [current], Balanced false argument :=
      List.forall_mem_append.mpr ⟨balanced, List.forall_mem_singleton.mpr opened.balanced⟩
    have edge : Edge.Spells known _ _ :=
      .arguments function blank all (.shut (.nil false))
    rw [List.map_append, List.reverse_append] at edge
    rw [ArgumentScan.currentArgument, List.reverse_reverse]
    refine ⟨before, _, stack, edge, ?_⟩
    simp only [Arguments.ended, List.flatMap_append, List.flatMap_singleton, List.append_assoc,
      List.cons_append, List.append_nil]
  · simp only [if_neg separates]
    exact goesOn (opened.char opens closes separates)

theorem spells_opening (position : Nat) (letters : Letters) {gap : Text}
    (stack : Stack known frames before) (blank : gap.all Text.isGap = true) :
    (reading position frames (.arguments (Text.upper letters.text.reverse.reverse)
      .start)).Spells known (before ++ (letters.text ++ gap) ++ ['(']) := by
  have edge : Edge.Spells known _ _ :=
    .arguments letters blank (List.forall_mem_nil _) (.shut (.nil false))
  rw [List.reverse_reverse]
  refine ⟨before, _, stack, edge, ?_⟩
  simp only [Arguments.ended, List.flatMap_nil, List.append_assoc, List.append_nil]

theorem spells_stepLetters (letters : Letters) (stack : Stack known frames before)
    (whole : ((reading position frames (.letters letters.text.reverse)).step c).Whole known) :
    ((reading position frames (.letters letters.text.reverse)).step c).Spells known
      (before ++ letters.text ++ [c]) := by
  simp only [step] at whole ⊢
  by_cases letter : Text.isLetter c = true
  · rw [if_pos letter]
    have edge : Edge.Spells known (.letters (letters.text ++ [c]).reverse) (letters.text ++ [c]) :=
      .letters (letters.grow letter)
    rw [List.reverse_append] at edge
    exact ⟨before, _, stack, edge, List.append_assoc _ _ _⟩
  rw [if_neg letter] at whole ⊢
  by_cases digit : Text.isDigit c = true
  · rw [if_pos digit]
    have edge : Edge.Spells known (.reference (letters.text ++ [c]).reverse)
        (letters.text ++ [c]) :=
      .reference letters (.single c digit)
    rw [List.reverse_append] at edge
    exact ⟨before, _, stack, edge, List.append_assoc _ _ _⟩
  rw [if_neg digit] at whole ⊢
  by_cases opens : c = '('
  · rw [if_pos opens]
    subst opens
    have spells := spells_opening (position + 1) letters stack List.all_nil
    rwa [List.append_nil] at spells
  rw [if_neg opens] at whole ⊢
  by_cases gap : Text.isGap c = true
  · rw [if_pos gap]
    exact ⟨before, _, stack, .spacedLetters letters (Text.all_singleton gap),
      List.append_assoc _ _ _⟩
  · rw [if_neg gap] at whole
    exact absurd (whole_of_stepOperator whole).1 id

theorem spells_stepSpacedLetters (letters : Letters) {gap : Text}
    (stack : Stack known frames before) (blank : gap.all Text.isGap = true)
    (whole : ((reading position frames (.spacedLetters letters.text.reverse)).step c).Whole known) :
    ((reading position frames (.spacedLetters letters.text.reverse)).step c).Spells known
      (before ++ (letters.text ++ gap) ++ [c]) := by
  simp only [step] at whole ⊢
  by_cases gapBehind : Text.isGap c = true
  · rw [if_pos gapBehind]
    have longer : (gap ++ [c]).all Text.isGap = true := Text.all_snoc blank gapBehind
    refine ⟨before, _, stack, .spacedLetters letters longer, ?_⟩
    simp only [List.append_assoc]
  rw [if_neg gapBehind] at whole ⊢
  by_cases opens : c = '('
  · rw [if_pos opens]
    subst opens
    exact spells_opening (position + 1) letters stack blank
  · rw [if_neg opens] at whole
    exact absurd (whole_of_stepOperator whole).1 id

theorem spells_stepReference (column : Letters) (row : Digits)
    (stack : Stack known frames before)
    (whole : ((reading position frames
      (.reference (column.text ++ row.text).reverse)).step c).Whole known) :
    ((reading position frames (.reference (column.text ++ row.text).reverse)).step c).Spells
      known (before ++ (column.text ++ row.text) ++ [c]) := by
  simp only [step] at whole ⊢
  by_cases digit : Text.isDigit c = true
  · rw [if_pos digit]
    have edge : Edge.Spells known (.reference (column.text ++ (row.text ++ [c])).reverse)
        (column.text ++ (row.text ++ [c])) :=
      .reference column (row.grow digit)
    rw [← List.append_assoc, List.reverse_append] at edge
    exact ⟨before, _, stack, edge, List.append_assoc _ _ _⟩
  · rw [if_neg digit, List.reverse_reverse] at whole ⊢
    have spells := spells_stepOperator stack (.reference column row) trivial List.all_nil whole
    rwa [List.append_nil] at spells

theorem spells_stepNumeral {scan : NumeralScan} {d : Char} {rest : Text}
    (stack : Stack known frames before) (read : scan.read.reverse = d :: rest)
    (starts : NumeralScan.starts d = true)
    (whole : ((reading position frames (.numeral scan)).step c).Whole known) :
    ((reading position frames (.numeral scan)).step c).Spells known
      (before ++ d :: rest ++ [c]) := by
  simp only [step] at whole ⊢
  cases belongs : scan.step? c with
  | some next =>
      have longer : next.read.reverse = d :: (rest ++ [c]) := by
        rw [NumeralScan.read_of_step? belongs, List.reverse_cons, read, List.cons_append]
      exact ⟨before, _, stack, .numeral longer starts, List.append_assoc _ _ _⟩
  | none =>
      rw [belongs] at whole
      obtain ⟨numeral, operand, written⟩ :=
        operand_of_numeral read starts (whole_of_stepOperator whole).1
      simp only [operand] at whole ⊢
      have spells := spells_stepOperator stack (.number numeral) trivial List.all_nil whole
      rwa [List.append_nil, written] at spells

/-- If what has been read is described, so is what has been read with one more
character, unless something has gone wrong. -/
theorem spells_step {reader : Reader} {text : Text} (spells : reader.Spells known text)
    (whole : (reader.step c).Whole known) : (reader.step c).Spells known (text ++ [c]) := by
  cases reader with
  | trailing formula position rest => cases spells
  | stopped formula => cases spells
  | reading position frames edge =>
      obtain ⟨before, rest, stack, edgeSpells, rfl⟩ := spells
      cases edgeSpells with
      | operand =>
          rw [List.append_nil]
          exact spells_stepOperand stack whole
      | operator renders proper blank => exact spells_stepOperator stack renders proper blank whole
      | numeral read starts => exact spells_stepNumeral stack read starts whole
      | letters letters => exact spells_stepLetters letters stack whole
      | spacedLetters letters blank => exact spells_stepSpacedLetters letters stack blank whole
      | reference column row => exact spells_stepReference column row stack whole
      | arguments function blank balanced opened =>
          exact spells_stepArguments stack blank balanced opened whole

theorem spells_foldl {reader : Reader} {text rest : Text} (spells : reader.Spells known text)
    (whole : (rest.foldl step reader).Whole known) :
    (rest.foldl step reader).Spells known (text ++ rest) := by
  induction rest generalizing reader text with
  | nil =>
      rw [List.append_nil]
      exact spells
  | cons c rest inductionHypothesis =>
      have next := inductionHypothesis (spells_step spells (whole_of_foldl whole)) whole
      rwa [List.append_assoc] at next

theorem exists_writes_of_unclosed {operand : Expression} {text gap : Text}
    (stack : Stack known frames before)
    (renders : operand.Renders Expression.operandStrength text) (proper : operand.Proper known)
    (blank : gap.all Text.isGap = true) (whole : (unclosed operand.formula frames).Whole known) :
    ∃ expression : Expression, expression.Writes (before ++ (text ++ gap)) ∧
      expression.Proper known := by
  obtain ⟨closed, binds, outer, around, inside, closes, outerStack, insideRenders,
      insideProper, positive, -, same⟩ :=
    stack.close (accepts_operandStrength frames) renders proper (by decide)
      (Nat.zero_le _) (Nat.zero_le _)
  have outermost := (close_of_whole_unclosed whole).1
  rw [closes] at outermost
  cases outermost
  cases outerStack with
  | nil blankBefore =>
      refine ⟨closed, ⟨around, inside, gap, blankBefore, blank, insideRenders.mono positive, ?_⟩,
        insideProper⟩
      rw [← List.append_assoc, same, List.append_assoc]

theorem exists_writes_of_finish {reader : Reader} {text : Text}
    (spells : reader.Spells known text) (whole : reader.finish.Whole known) :
    ∃ expression : Expression, expression.Writes text ∧ expression.Proper known := by
  cases reader with
  | trailing formula position rest => cases spells
  | stopped formula => cases spells
  | reading position frames edge =>
      obtain ⟨before, rest, stack, edgeSpells, rfl⟩ := spells
      cases edgeSpells with
      | operand => exact absurd (whole_of_rebuild whole).1 id
      | operator renders proper blank =>
          exact exists_writes_of_unclosed stack renders proper blank whole
      | numeral read starts =>
          obtain ⟨numeral, operand, written⟩ :=
            operand_of_numeral read starts (whole_of_unclosed whole).1
          rw [finish, operand] at whole
          have writes :=
            exists_writes_of_unclosed stack (.number numeral) trivial List.all_nil whole
          rwa [List.append_nil, written] at writes
      | letters letters => exact absurd (whole_of_unclosed whole).1 id
      | spacedLetters letters blank => exact absurd (whole_of_unclosed whole).1 id
      | reference column row =>
          rw [finish, List.reverse_reverse] at whole
          have writes :=
            exists_writes_of_unclosed stack (.reference column row) trivial List.all_nil whole
          rwa [List.append_nil] at writes
      | arguments function blank balanced opened => exact absurd (whole_of_rebuild whole).1 id

end Reader

/-- A text whose formula is whole writes an expression, with proper calls of known
functions. -/
theorem Formula.exists_writes_of_whole {text : Text} (whole : (ofText text).Whole known) :
    ∃ expression : Expression, expression.Writes text ∧ expression.Proper known := by
  have first : Reader.start.Spells known [] :=
    ⟨[], [], .nil rfl, .operand, rfl⟩
  have last := Reader.spells_foldl first (Reader.whole_of_finish whole)
  rw [List.nil_append] at last
  exact Reader.exists_writes_of_finish last whole

end Spreadsheet
