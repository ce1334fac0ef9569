import Spreadsheet.Proofs.Formula.Numeral
import Spreadsheet.Proofs.Text.Strip

/-!
# Reading what has been written

Every text that writes an expression is read as the formula that the expression
stands for.  Reading goes character by character, so a part of the text is read
among frames that wait for it, and need not close them: it leaves an operand and
frames which close to the part's formula as soon as something follows that binds
no more tightly.  That is `Reads`, and each rule of the grammar keeps it.
-/

namespace Spreadsheet

/-! ## Frames that stay open -/

/-- An operand of the strength may be read among the frames without closing any of
them. -/
def Frame.Accept (strength : Nat) : List Frame → Prop
  | [] => True
  | .group :: _ => True
  | .left _ operator :: _ => operator.strength < strength
  | .sign _ :: _ => 2 < strength

namespace Reader

variable {strength : Nat} {frames : List Frame} {operand formula : Formula}

theorem accepts_mono {stronger : Nat} (accepts : Frame.Accept strength frames)
    (le : strength ≤ stronger) : Frame.Accept stronger frames := by
  match frames, accepts with
  | [], _ => trivial
  | .group :: _, _ => trivial
  | .left _ operator :: _, accepts => exact Nat.lt_of_lt_of_le accepts le
  | .sign _ :: _, accepts => exact Nat.lt_of_lt_of_le accepts le

/-- An operation does not close the frames that accept it. -/
theorem close_of_accepts (operation : strength ≤ 2) (accepts : Frame.Accept strength frames)
    (operand : Formula) : close strength operand frames = (operand, frames) := by
  match frames, accepts with
  | [], _ => rfl
  | .group :: _, _ => rfl
  | .left _ operator :: _, accepts => rw [close, if_neg (Nat.not_le_of_lt accepts)]
  | .sign _ :: _, accepts => exact absurd accepts (Nat.not_lt_of_le operation)

/-! ## One more character -/

/-- One more character stands where an operand must come, goes on with what is being read, or
stands behind the operand that has been read.  Which of them does not depend on the position or
on the frames. -/
theorem step_cases (edge : Edge) (c : Char) :
    edge = .operand ∨
    (∃ next, ∀ position frames,
      (reading position frames edge).step c = reading (position + 1) frames next) ∨
    ∃ operand, ∀ position frames,
      (reading position frames edge).step c = stepOperator position frames operand c := by
  cases edge with
  | operand => exact .inl rfl
  | operator operand => exact .inr (.inr ⟨operand, fun _ _ => rfl⟩)
  | numeral scan =>
      simp only [step]
      cases scan.step? c with
      | some next => exact .inr (.inl ⟨_, fun _ _ => rfl⟩)
      | none => exact .inr (.inr ⟨_, fun _ _ => rfl⟩)
  | letters name =>
      simp only [step]
      by_cases letter : Text.isLetter c = true
      · simp only [if_pos letter]
        exact .inr (.inl ⟨_, fun _ _ => rfl⟩)
      by_cases digit : Text.isDigit c = true
      · simp only [if_neg letter, if_pos digit]
        exact .inr (.inl ⟨_, fun _ _ => rfl⟩)
      by_cases opens : c = '('
      · simp only [if_neg letter, if_neg digit, if_pos opens]
        exact .inr (.inl ⟨_, fun _ _ => rfl⟩)
      by_cases gap : Text.isGap c = true
      · simp only [if_neg letter, if_neg digit, if_neg opens, if_pos gap]
        exact .inr (.inl ⟨_, fun _ _ => rfl⟩)
      · simp only [if_neg letter, if_neg digit, if_neg opens, if_neg gap]
        exact .inr (.inr ⟨_, fun _ _ => rfl⟩)
  | spacedLetters name =>
      simp only [step]
      by_cases gap : Text.isGap c = true
      · simp only [if_pos gap]
        exact .inr (.inl ⟨_, fun _ _ => rfl⟩)
      by_cases opens : c = '('
      · simp only [if_neg gap, if_pos opens]
        exact .inr (.inl ⟨_, fun _ _ => rfl⟩)
      · simp only [if_neg gap, if_neg opens]
        exact .inr (.inr ⟨_, fun _ _ => rfl⟩)
  | reference name =>
      simp only [step]
      by_cases digit : Text.isDigit c = true
      · simp only [if_pos digit]
        exact .inr (.inl ⟨_, fun _ _ => rfl⟩)
      · simp only [if_neg digit]
        exact .inr (.inr ⟨_, fun _ _ => rfl⟩)
  | arguments function scan =>
      simp only [step]
      cases scan.step c with
      | more next => exact .inr (.inl ⟨_, fun _ _ => rfl⟩)
      | closed arguments => exact .inr (.inl ⟨_, fun _ _ => rfl⟩)

/-! ## Operands that are whole -/

/-- The token or operand is the whole of an operand: what may stand behind it is
read behind it, and the text may end. -/
structure Holds (edge : Edge) (operand : Formula) : Prop where
  step (position : Nat) (frames : List Frame) {c : Char} (delimiter : c ∈ delimiters) :
    (reading position frames edge).step c = stepOperator position frames operand c
  finish (position : Nat) (frames : List Frame) :
    (reading position frames edge).finish = unclosed operand frames

theorem holds_operator (operand : Formula) : Holds (.operator operand) operand where
  step _ _ _ _ := rfl
  finish _ _ := rfl

theorem holds_numeral {scan : NumeralScan} (settled : scan.atMark = false) :
    Holds (.numeral scan) scan.operand where
  step position frames c delimiter := by
    rw [Reader.step]
    simp only [NumeralScan.step?_delimiter settled delimiter]
  finish _ _ := rfl

theorem holds_reference (name : Text) : Holds (.reference name) (.reference name.reverse) where
  step position frames c delimiter := by
    have other : Text.isDigit c = false := by
      simp only [delimiters, List.mem_cons, List.not_mem_nil, or_false] at delimiter
      rcases delimiter with rfl | rfl | rfl | rfl | rfl | rfl | rfl <;> rfl
    simp only [Reader.step, other, Bool.false_eq_true, if_false]
  finish _ _ := rfl

theorem mem_delimiters_of_isGap {c : Char} (gap : Text.isGap c = true) : c ∈ delimiters := by
  simp only [Text.isGap, Bool.or_eq_true, beq_iff_eq] at gap
  rcases gap with rfl | rfl <;> decide

theorem Holds.foldl_gap {edge : Edge} (holds : Holds edge operand) (position : Nat)
    (frames : List Frame) {gap : Text} (blank : gap.all Text.isGap = true) :
    ∃ position' edge', gap.foldl Reader.step (reading position frames edge) =
      reading position' frames edge' ∧ Holds edge' operand := by
  induction gap generalizing position edge with
  | nil => exact ⟨position, edge, rfl, holds⟩
  | cons c gap inductionHypothesis =>
      rw [List.all_cons, Bool.and_eq_true] at blank
      rw [List.foldl_cons, holds.step position frames (mem_delimiters_of_isGap blank.1),
        stepOperator, if_pos blank.1]
      exact inductionHypothesis (holds_operator operand) (position + 1) blank.2

theorem foldl_gap_operand (position : Nat) (frames : List Frame) {gap : Text}
    (blank : gap.all Text.isGap = true) :
    ∃ position', gap.foldl step (reading position frames .operand) =
      reading position' frames .operand := by
  induction gap generalizing position with
  | nil => exact ⟨position, rfl⟩
  | cons c gap inductionHypothesis =>
      rw [List.all_cons, Bool.and_eq_true] at blank
      rw [List.foldl_cons]
      simp only [step, stepOperand, if_pos blank.1]
      exact inductionHypothesis (position + 1) blank.2

/-! ## Reading a part of a text -/

/-- Among any frames that accept an operand of the strength, the text is read to a
whole operand; it and the frames left then close to the formula. -/
def Reads (strength : Nat) (text : Text) (formula : Formula) : Prop :=
  ∀ position frames, Frame.Accept strength frames →
    ∃ position' frames' edge operand,
      text.foldl step (reading position frames .operand) = reading position' frames' edge ∧
        Holds edge operand ∧
          ∀ weaker, weaker ≤ strength →
            close weaker operand frames' = close weaker formula frames

variable {text : Text}

/-- A part that is read as one operand leaves the frames as they are. -/
theorem Reads.of_operand
    (read : ∀ position frames, ∃ position' edge,
      text.foldl step (reading position frames .operand) = reading position' frames edge ∧
        Holds edge formula) : Reads strength text formula := by
  intro position frames _
  obtain ⟨position', edge, reading, holds⟩ := read position frames
  exact ⟨position', frames, edge, formula, reading, holds, fun _ _ => rfl⟩

theorem Reads.weaken (reads : Reads (strength + 1) text formula) :
    Reads strength text formula := by
  intro position frames accepts
  obtain ⟨position', frames', edge, operand, reading, holds, closes⟩ :=
    reads position frames (accepts_mono accepts (Nat.le_succ strength))
  exact ⟨position', frames', edge, operand, reading, holds,
    fun weaker le => closes weaker (Nat.le_succ_of_le le)⟩

theorem Reads.signed (sign : Sign) {gap : Text} (blank : gap.all Text.isGap = true)
    (reads : Reads Expression.operandStrength text formula) :
    Reads Expression.operandStrength (sign.char :: (gap ++ text)) (.signed sign formula) := by
  intro position frames _
  have first : (reading position frames .operand).step sign.char =
      reading (position + 1) (.sign sign :: frames) .operand := by
    cases sign <;> rfl
  obtain ⟨behind, gapRead⟩ := foldl_gap_operand (position + 1) (.sign sign :: frames) blank
  obtain ⟨position', frames', edge, operand, reading, holds, closes⟩ :=
    reads behind (.sign sign :: frames) (by decide : 2 < Expression.operandStrength)
  refine ⟨position', frames', edge, operand, ?_, holds, closes⟩
  rw [List.foldl_cons, first, List.foldl_append, gapRead, reading]

theorem stepOperator_char (position : Nat) (frames : List Frame) (operand : Formula)
    (operator : Operator) :
    stepOperator position frames operand operator.char =
      reading (position + 1)
        (.left (close operator.strength operand frames).1 operator ::
          (close operator.strength operand frames).2) .operand := by
  cases operator <;> rfl

theorem Reads.binary (operator : Operator) {leftText before behind rightText : Text}
    {left right : Formula} (leftReads : Reads operator.strength leftText left)
    (blankBefore : before.all Text.isGap = true) (blankBehind : behind.all Text.isGap = true)
    (rightReads : Reads (operator.strength + 1) rightText right) :
    Reads operator.strength (leftText ++ (before ++ operator.char :: (behind ++ rightText)))
      (.binary operator left right) := by
  intro position frames accepts
  have operation : operator.strength ≤ 2 := by cases operator <;> decide
  have delimiter : operator.char ∈ delimiters := by cases operator <;> decide
  obtain ⟨position₁, frames₁, edge₁, operand₁, read₁, holds₁, closes₁⟩ :=
    leftReads position frames accepts
  obtain ⟨position₂, edge₂, read₂, holds₂⟩ := holds₁.foldl_gap position₁ frames₁ blankBefore
  have closed : close operator.strength operand₁ frames₁ = (left, frames) :=
    (closes₁ _ (Nat.le_refl _)).trans (close_of_accepts operation accepts left)
  obtain ⟨position₃, read₃⟩ :=
    foldl_gap_operand (position₂ + 1) (.left left operator :: frames) blankBehind
  obtain ⟨position₄, frames₄, edge₄, operand₄, read₄, holds₄, closes₄⟩ :=
    rightReads position₃ (.left left operator :: frames) (Nat.lt_succ_self _)
  refine ⟨position₄, frames₄, edge₄, operand₄, ?_, holds₄, ?_⟩
  · rw [List.foldl_append, read₁, List.foldl_append, read₂, List.foldl_cons,
      holds₂.step position₂ frames₁ delimiter, stepOperator_char, closed, List.foldl_append,
      read₃, read₄]
  · intro weaker le
    rw [closes₄ weaker (Nat.le_succ_of_le le), close, if_pos le]

theorem Reads.group {before behind : Text} (blankBefore : before.all Text.isGap = true)
    (blankBehind : behind.all Text.isGap = true)
    (reads : Reads Operator.add.strength text formula) :
    Reads strength ('(' :: (before ++ (text ++ (behind ++ [')'])))) (.group formula) := by
  apply Reads.of_operand
  intro position frames
  obtain ⟨position₁, read₁⟩ := foldl_gap_operand (position + 1) (.group :: frames) blankBefore
  obtain ⟨position₂, frames₂, edge₂, operand₂, read₂, holds₂, closes₂⟩ :=
    reads position₁ (.group :: frames) trivial
  obtain ⟨position₃, edge₃, read₃, holds₃⟩ := holds₂.foldl_gap position₂ frames₂ blankBehind
  have closed : close 0 operand₂ frames₂ = (formula, .group :: frames) :=
    closes₂ 0 (Nat.zero_le _)
  have last : stepOperator position₃ frames₂ operand₂ ')' =
      reading (position₃ + 1) frames (.operator (.group formula)) := by
    have noGap : Text.isGap ')' = false := by decide
    have noOperator : operator? ')' = none := by decide
    simp only [stepOperator, noGap, noOperator, closed, Bool.false_eq_true, if_false, if_true]
  refine ⟨position₃ + 1, _, ?_, holds_operator (.group formula)⟩
  change (before ++ (text ++ (behind ++ [')']))).foldl step
    (reading (position + 1) (.group :: frames) .operand) = _
  rw [List.foldl_append, read₁, List.foldl_append, read₂, List.foldl_append, read₃,
    List.foldl_cons, holds₃.step position₃ frames₂ (by decide), last]
  rfl

/-! ## Numerals and references -/

theorem foldl_numeral (position : Nat) (frames : List Frame) {scan final : NumeralScan}
    (scans : text.foldlM NumeralScan.step? scan = some final) :
    text.foldl step (reading position frames (.numeral scan)) =
      reading (position + text.length) frames (.numeral final) := by
  induction text generalizing position scan with
  | nil =>
      cases scans
      rfl
  | cons c text inductionHypothesis =>
      rw [List.foldlM_cons] at scans
      cases next : scan.step? c with
      | none =>
          rw [next] at scans
          cases scans
      | some scan' =>
          rw [next] at scans
          rw [List.foldl_cons, step]
          simp only [next]
          rw [inductionHypothesis (position + 1) scans, List.length_cons, Nat.add_assoc,
            Nat.add_comm 1]

/-- What neither is a gap nor opens an operand is the beginning of a token. -/
theorem stepOperand_of_notMem (position : Nat) (frames : List Frame) {c : Char}
    (plain : c ∉ [' ', '\t', '+', '-', '(']) :
    stepOperand position frames c =
      if NumeralScan.starts c then reading (position + 1) frames (.numeral (.start c))
      else if Text.isLetter c then reading (position + 1) frames (.letters [c])
      else stopped (rebuild (.broken (.unexpectedChar c position)) frames) := by
  simp only [List.mem_cons, List.not_mem_nil, or_false, not_or] at plain
  obtain ⟨blank, tab, plus, minus, parenthesis⟩ := plain
  have gap : ¬ Text.isGap c = true := by simp [Text.isGap, blank, tab]
  rw [stepOperand, if_neg gap, if_neg plus, if_neg minus, if_neg parenthesis]

theorem stepOperand_of_starts (position : Nat) (frames : List Frame) {c : Char}
    (starting : NumeralScan.starts c = true) :
    stepOperand position frames c = reading (position + 1) frames (.numeral (.start c)) := by
  rw [stepOperand_of_notMem, if_pos starting]
  intro member
  simp only [List.mem_cons, List.not_mem_nil, or_false] at member
  rcases member with rfl | rfl | rfl | rfl | rfl <;> exact absurd starting (by decide)

theorem Reads.number (numeral : Numeral) :
    Reads strength numeral.text (.number numeral.value) := by
  apply Reads.of_operand
  intro position frames
  obtain ⟨c, rest, written, starting⟩ := numeral.text_cases
  have scans := NumeralScan.foldlM_numeral numeral
  generalize token : NumeralScan.mk numeral.text.reverse numeral.fraction.isSome
    numeral.exponent.isSome false = scan at scans
  have operand : scan.operand = .number numeral.value := by
    rw [← token, NumeralScan.operand, List.reverse_reverse, numeral.ofText?_text]
  have settled : scan.atMark = false := by rw [← token]
  refine ⟨position + 1 + rest.length, .numeral scan, ?_, operand ▸ holds_numeral settled⟩
  rw [written, List.foldlM_cons, NumeralScan.step?_empty starting] at scans
  rw [written, List.foldl_cons, step]
  simp only [stepOperand_of_starts position frames starting]
  exact foldl_numeral (position + 1) frames scans

theorem stepOperand_of_isLetter (position : Nat) (frames : List Frame) {c : Char}
    (letter : Text.isLetter c = true) :
    stepOperand position frames c = reading (position + 1) frames (.letters [c]) := by
  have starts : ¬ NumeralScan.starts c = true := by
    simp only [NumeralScan.starts, Text.not_isDigit_of_isLetter letter, Bool.false_or, beq_iff_eq]
    rintro rfl
    exact absurd letter (by decide)
  rw [stepOperand_of_notMem, if_neg starts, if_pos letter]
  intro member
  simp only [List.mem_cons, List.not_mem_nil, or_false] at member
  rcases member with rfl | rfl | rfl | rfl | rfl <;> exact absurd letter (by decide)

/-- A run of characters, each of which makes the token longer. -/
theorem foldl_run {edge : Text → Edge} {belongs : Char → Bool} {frames : List Frame}
    (longer : ∀ position name c, belongs c = true →
      (reading position frames (edge name)).step c =
        reading (position + 1) frames (edge (c :: name)))
    (position : Nat) (name : Text) (all : text.all belongs = true) :
    text.foldl step (reading position frames (edge name)) =
      reading (position + text.length) frames (edge (text.reverse ++ name)) := by
  induction text generalizing position name with
  | nil => rfl
  | cons c text inductionHypothesis =>
      rw [List.all_cons, Bool.and_eq_true] at all
      rw [List.foldl_cons, longer position name c all.1, inductionHypothesis _ _ all.2,
        List.length_cons, List.reverse_cons, List.append_assoc, Nat.add_assoc, Nat.add_comm 1]
      rfl

theorem foldl_letters (position : Nat) (frames : List Frame) (letters : Letters) :
    letters.text.foldl step (reading position frames .operand) =
      reading (position + letters.text.length) frames (.letters letters.text.reverse) := by
  have longer (position : Nat) (name : Text) (c : Char) (letter : Text.isLetter c = true) :
      (reading position frames (.letters name)).step c =
        reading (position + 1) frames (.letters (c :: name)) := by
    simp only [step, if_pos letter]
  have all := letters.all
  cases written : letters.text with
  | nil => exact absurd written letters.nonempty
  | cons c rest =>
      rw [written, List.all_cons, Bool.and_eq_true] at all
      rw [List.foldl_cons, step]
      simp only [stepOperand_of_isLetter position frames all.1]
      rw [foldl_run longer _ _ all.2, List.length_cons, List.reverse_cons, Nat.add_assoc,
        Nat.add_comm 1]

theorem foldl_digits (position : Nat) (frames : List Frame) (name : Text) (digits : Digits) :
    digits.text.foldl step (reading position frames (.letters name)) =
      reading (position + digits.text.length) frames
        (.reference (digits.text.reverse ++ name)) := by
  have longer (position : Nat) (name : Text) (c : Char) (digit : Text.isDigit c = true) :
      (reading position frames (.reference name)).step c =
        reading (position + 1) frames (.reference (c :: name)) := by
    simp only [step, if_pos digit]
  have all := digits.all
  cases written : digits.text with
  | nil => exact absurd written digits.nonempty
  | cons c rest =>
      rw [written, List.all_cons, Bool.and_eq_true] at all
      have letter : ¬ Text.isLetter c = true := by
        intro letter
        exact Bool.false_ne_true ((Text.not_isDigit_of_isLetter letter).symm.trans all.1)
      rw [List.foldl_cons]
      simp only [step, if_neg letter, if_pos all.1]
      rw [foldl_run longer _ _ all.2, List.length_cons, List.reverse_cons, List.append_assoc,
        Nat.add_assoc, Nat.add_comm 1]
      rfl

theorem Reads.reference (column : Letters) (row : Digits) :
    Reads strength (column.text ++ row.text) (.reference (column.text ++ row.text)) := by
  apply Reads.of_operand
  intro position frames
  have holds := holds_reference (row.text.reverse ++ column.text.reverse)
  rw [← List.reverse_append, List.reverse_reverse, List.reverse_append] at holds
  refine ⟨position + column.text.length + row.text.length, _, ?_, holds⟩
  rw [List.foldl_append, foldl_letters, foldl_digits]

/-! ## Calls -/

/-- A balanced text belongs to one argument, commas and all where parentheses are
open around it. -/
theorem foldl_balanced {commas : Bool} (balanced : Balanced commas text)
    (position : Nat) (frames : List Frame) (function : Text) (finished : List Text)
    (current : Text) {depth : Nat} (open' : commas = true → 0 < depth) :
    text.foldl step (reading position frames (.arguments function ⟨finished, current, depth⟩)) =
      reading (position + text.length) frames
        (.arguments function ⟨finished, text.reverse ++ current, depth⟩) := by
  induction balanced generalizing position current depth with
  | nil commas => rfl
  | @char commas c rest unopened unclosed plain _ inductionHypothesis =>
      have separator : ¬ (c = ',' && depth = 0) = true := by
        simp only [Bool.and_eq_true, decide_eq_true_eq, not_and]
        rcases plain with allowed | other
        · intro _ shut
          exact absurd (open' allowed) (by omega)
        · exact fun comma => absurd comma other
      have read : ArgumentScan.step ⟨finished, current, depth⟩ c =
          .more ⟨finished, c :: current, depth⟩ := by
        simp only [ArgumentScan.step, if_neg unopened, if_neg unclosed, if_neg separator]
      rw [List.foldl_cons]
      simp only [step, read]
      rw [inductionHypothesis _ _ open', List.length_cons, List.reverse_cons,
        List.append_assoc, Nat.add_assoc, Nat.add_comm 1]
      rfl
  | @parentheses commas inner rest _ _ innerHypothesis restHypothesis =>
      rw [List.foldl_cons]
      change (inner ++ ')' :: rest).foldl step (reading (position + 1) frames
        (.arguments function ⟨finished, '(' :: current, depth + 1⟩)) = _
      rw [List.foldl_append, innerHypothesis _ _ fun _ => Nat.succ_pos depth, List.foldl_cons]
      change rest.foldl step (reading (position + 1 + inner.length + 1) frames
        (.arguments function ⟨finished, ')' :: (inner.reverse ++ '(' :: current), depth⟩)) = _
      rw [restHypothesis _ _ open']
      simp only [List.length_cons, List.length_append, List.reverse_cons, List.reverse_append,
        List.append_assoc, List.cons_append, List.nil_append]
      congr 1
      omega

theorem close_last (finished : List Text) (argument : Text) :
    ArgumentScan.close ⟨finished, argument.reverse, 0⟩ =
      if finished = [] then Arguments.passed [argument]
      else finished.reverse ++ [argument.strip] := by
  cases finished with
  | nil =>
      simp only [ArgumentScan.close, ArgumentScan.currentArgument, List.isEmpty_nil,
        List.all_reverse, Bool.true_and, List.reverse_reverse, if_true, Arguments.passed,
        List.reverse_cons, List.reverse_nil, List.nil_append]
  | cons first finished =>
      simp [ArgumentScan.close, ArgumentScan.currentArgument]

/-- Reading the rest of an argument list, behind the arguments that are
finished. -/
theorem foldl_arguments (frames : List Frame) (function : Text) {arguments : List Text}
    (balanced : ∀ argument ∈ arguments, Balanced false argument) (position : Nat)
    (finished : List Text) (proper : arguments = [] → finished = []) :
    ∃ position', (Arguments.text arguments ++ [')']).foldl step
        (reading position frames (.arguments function ⟨finished, [], 0⟩)) =
      reading position' frames (.operator (.call function
        (if finished = [] then Arguments.passed arguments
          else finished.reverse ++ arguments.map Text.strip))) := by
  have shut : false = true → 0 < 0 := nofun
  induction arguments generalizing position finished with
  | nil =>
      cases proper rfl
      exact ⟨position + 1, rfl⟩
  | cons argument arguments inductionHypothesis =>
      have first := foldl_balanced (balanced argument List.mem_cons_self) position frames
        function finished [] shut
      rw [List.append_nil] at first
      cases arguments with
      | nil =>
          refine ⟨position + argument.length + 1, ?_⟩
          change (argument ++ [')']).foldl step _ = _
          rw [List.foldl_append, first]
          change reading (position + argument.length + 1) frames (.operator (.call function
            (ArgumentScan.close ⟨finished, argument.reverse, 0⟩))) = _
          rw [close_last]
          rfl
      | cons next rest =>
          obtain ⟨position', read⟩ := inductionHypothesis
            (fun other member => balanced other (List.mem_cons_of_mem _ member))
            (position + argument.length + 1) (argument.strip :: finished) nofun
          refine ⟨position', ?_⟩
          change (argument ++ ',' :: Arguments.text (next :: rest) ++ [')']).foldl step _ = _
          rw [List.append_assoc, List.foldl_append, first, List.cons_append, List.foldl_cons]
          change (Arguments.text (next :: rest) ++ [')']).foldl step
            (reading (position + argument.length + 1) frames (.arguments function
              ⟨Text.strip argument.reverse.reverse :: finished, [], 0⟩)) = _
          rw [List.reverse_reverse, read, if_neg (List.cons_ne_nil _ _)]
          cases finished with
          | nil => rfl
          | cons last finished => simp

/-- The name of a function with its opening parenthesis, which may stand behind a
gap. -/
theorem foldl_opening (position : Nat) (frames : List Frame) (name : Text) {gap : Text}
    (blank : gap.all Text.isGap = true) :
    ∃ position', (gap ++ ['(']).foldl step (reading position frames (.letters name)) =
      reading position' frames (.arguments (Text.upper name.reverse) .start) := by
  have spaced : ∀ (gap : Text) (position : Nat), gap.all Text.isGap = true →
      ∃ position', (gap ++ ['(']).foldl step (reading position frames (.spacedLetters name)) =
        reading position' frames (.arguments (Text.upper name.reverse) .start) := by
    intro gap
    induction gap with
    | nil => exact fun position _ => ⟨position + 1, rfl⟩
    | cons c gap inductionHypothesis =>
        intro position blank
        rw [List.all_cons, Bool.and_eq_true] at blank
        obtain ⟨position', read⟩ := inductionHypothesis (position + 1) blank.2
        refine ⟨position', ?_⟩
        rw [List.cons_append, List.foldl_cons, ← read]
        simp only [step, if_pos blank.1]
  cases gap with
  | nil => exact ⟨position + 1, rfl⟩
  | cons c gap =>
      rw [List.all_cons, Bool.and_eq_true] at blank
      obtain ⟨position', read⟩ := spaced gap (position + 1) blank.2
      refine ⟨position', ?_⟩
      have first : (reading position frames (.letters name)).step c =
          reading (position + 1) frames (.spacedLetters name) := by
        have character := blank.1
        simp only [Text.isGap, Bool.or_eq_true, beq_iff_eq] at character
        rcases character with rfl | rfl <;> rfl
      rw [List.cons_append, List.foldl_cons, first, read]

/-- A call is read where an operand is expected, whatever waits for it. -/
theorem foldl_call (position : Nat) (frames : List Frame) (function : Letters) {gap : Text}
    {arguments : List Text} (blank : gap.all Text.isGap = true)
    (balanced : ∀ argument ∈ arguments, Balanced false argument) :
    ∃ position', (function.text ++ (gap ++ '(' :: (Arguments.text arguments ++ [')']))).foldl step
        (reading position frames .operand) =
      reading position' frames (.operator (.call (Text.upper function.text)
        (Arguments.passed arguments))) := by
  obtain ⟨position', opened⟩ := foldl_opening (position + function.text.length) frames
    function.text.reverse blank
  rw [List.reverse_reverse] at opened
  obtain ⟨position'', read⟩ :=
    foldl_arguments frames (Text.upper function.text) balanced position' [] fun _ => rfl
  have split : gap ++ '(' :: (Arguments.text arguments ++ [')']) =
      (gap ++ ['(']) ++ (Arguments.text arguments ++ [')']) := by simp
  refine ⟨position'', ?_⟩
  rw [List.foldl_append, foldl_letters, split, List.foldl_append, opened]
  exact read

theorem Reads.call (function : Letters) {gap : Text} {arguments : List Text}
    (blank : gap.all Text.isGap = true)
    (balanced : ∀ argument ∈ arguments, Balanced false argument) :
    Reads strength (function.text ++ (gap ++ '(' :: (Arguments.text arguments ++ [')'])))
      (.call (Text.upper function.text) (Arguments.passed arguments)) := by
  apply Reads.of_operand
  intro position frames
  obtain ⟨position', read⟩ := foldl_call position frames function blank balanced
  exact ⟨position', _, read, holds_operator _⟩

theorem balanced_of_isGap (blank : text.all Text.isGap = true) : Balanced false text := by
  induction text with
  | nil => exact .nil false
  | cons c text inductionHypothesis =>
      rw [List.all_cons, Bool.and_eq_true] at blank
      have gap := blank.1
      simp only [Text.isGap, Bool.or_eq_true, beq_iff_eq] at gap
      rcases gap with rfl | rfl
      · exact .char (by decide) (by decide) (.inr (by decide)) (inductionHypothesis blank.2)
      · exact .char (by decide) (by decide) (.inr (by decide)) (inductionHypothesis blank.2)

theorem Reads.bareCall (function : Letters) {gap inside : Text}
    (blank : gap.all Text.isGap = true) (blankInside : inside.all Text.isGap = true) :
    Reads strength (function.text ++ (gap ++ '(' :: (inside ++ [')'])))
      (.call (Text.upper function.text) []) := by
  have balanced : ∀ argument ∈ [inside], Balanced false argument := by
    intro argument member
    cases List.mem_singleton.mp member
    exact balanced_of_isGap blankInside
  have call : Reads strength
      (function.text ++ (gap ++ '(' :: (Arguments.text [inside] ++ [')'])))
      (.call (Text.upper function.text) (Arguments.passed [inside])) :=
    .call function blank balanced
  rwa [Arguments.passed, if_pos blankInside] at call

/-- Whatever writes an expression is read as its formula. -/
theorem reads_of_renders {expression : Expression}
    (renders : expression.Renders strength text) : Reads strength text expression.formula := by
  induction renders with
  | number numeral => exact .number numeral
  | reference column row => exact .reference column row
  | signed sign blank _ inductionHypothesis => exact inductionHypothesis.signed sign blank
  | binary operator _ blankBefore blankBehind _ leftHypothesis rightHypothesis =>
      exact leftHypothesis.binary operator blankBefore blankBehind rightHypothesis
  | group blankBefore blankBehind _ inductionHypothesis =>
      exact inductionHypothesis.group blankBefore blankBehind
  | call function blank balanced => exact .call function blank balanced
  | bareCall function blank blankInside => exact .bareCall function blank blankInside
  | weaken _ inductionHypothesis => exact inductionHypothesis.weaken

end Reader

/-- The formula of a text that writes an expression is that of the expression. -/
theorem Formula.ofText_of_writes {expression : Expression} {text : Text}
    (writes : expression.Writes text) : ofText text = expression.formula := by
  obtain ⟨before, inner, behind, blankBefore, blankBehind, renders, rfl⟩ := writes
  obtain ⟨position₁, read₁⟩ := Reader.foldl_gap_operand 0 [] blankBefore
  obtain ⟨position₂, frames₂, edge₂, operand₂, read₂, holds₂, closes₂⟩ :=
    Reader.reads_of_renders renders position₁ [] trivial
  obtain ⟨position₃, edge₃, read₃, holds₃⟩ := holds₂.foldl_gap position₂ frames₂ blankBehind
  have closed : Reader.close 0 operand₂ frames₂ = (expression.formula, []) :=
    closes₂ 0 (Nat.zero_le _)
  rw [ofText, Reader.start, List.foldl_append, read₁, List.foldl_append, read₂, read₃,
    holds₃.finish, Reader.unclosed, closed]

end Spreadsheet
