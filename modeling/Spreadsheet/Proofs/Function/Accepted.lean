import Spreadsheet.Proofs.Formula.Uniqueness
import Spreadsheet.Proofs.Function.Exchange

/-!
# Texts that have a value

A text with a value writes exactly one expression whose calls are of registered
functions, whoever answers its references and whatever the functions do with their
calls, of whose places in the text they know nothing.  So its parentheses are
balanced, it ends with a whole operand, and characters that belong to no token stand
in the arguments of calls only.
-/

namespace Spreadsheet

/-! ## Formulas with a value -/

/-- A formula with a value has not gone wrong, and its calls are of functions that can
have a value. -/
theorem Formula.whole_of_transcript {known : Text → Prop}
    {call : Nat → Text → List Text → Query Number}
    (knows : ∀ room function arguments exchange value,
      (call room function arguments).Transcript exchange (.ok value) → known function)
    {formula : Formula} {room : Nat} {exchange : Exchange} {value : Number}
    (transcript : (formula.evaluate call room).Transcript exchange (.ok value)) :
    formula.Whole known := by
  induction formula generalizing room exchange value with
  | number value => trivial
  | reference name => trivial
  | signed sign operand inductionHypothesis =>
      rw [evaluate] at transcript
      have signed := transcript.of_within
      rw [map_eq_pure_bind] at signed
      obtain ⟨_, _, _, -, operandTranscript, -⟩ := signed.of_bind
      exact inductionHypothesis operandTranscript
  | binary operator left right leftHypothesis rightHypothesis =>
      rw [evaluate] at transcript
      obtain ⟨_, _, _, -, leftTranscript, behind⟩ := transcript.of_bind
      obtain ⟨_, _, _, -, rightTranscript, -⟩ := behind.of_bind
      exact ⟨leftHypothesis leftTranscript, rightHypothesis rightTranscript⟩
  | group inner inductionHypothesis =>
      rw [evaluate] at transcript
      exact inductionHypothesis transcript.of_within
  | call function arguments => exact knows room function arguments exchange value transcript
  | broken cause => cases transcript
  | halted start cause inductionHypothesis =>
      rw [evaluate] at transcript
      obtain ⟨_, _, _, -, -, stopped⟩ := transcript.of_bind
      cases stopped

/-- A text with a value has not gone wrong, and its calls are of registered
functions. -/
theorem Registry.whole_of_transcript {functions : Registry} {calls room : Nat} {text : Text}
    {exchange : Exchange} {value : Number}
    (transcript : (functions.evaluate calls room text).Transcript exchange (.ok value)) :
    (Formula.ofText text).Whole fun name => (functions.find? name).isSome = true := by
  cases calls with
  | zero => cases transcript
  | succ calls =>
      rw [evaluate_succ] at transcript
      refine Formula.whole_of_transcript ?_ transcript
      intro room function arguments exchange value called
      rw [invoke] at called
      cases found : functions.find? function with
      | none =>
          rw [found] at called
          cases called
      | some body => rfl

/-! ## What is written outside of arguments -/

/-- The characters of numerals, names and operations, and blanks and tabs. -/
def Text.isPlain (c : Char) : Bool :=
  isLetter c || isDigit c || isGap c || ['.', '+', '-', '*', '/'].contains c

/-- What stands between the parentheses of calls. -/
def Expression.inside : Expression → Text
  | number _ => []
  | reference _ _ => []
  | signed _ operand => operand.inside
  | binary _ left right => left.inside ++ right.inside
  | group inner => inner.inside
  | call _ arguments => Arguments.text arguments

namespace Text

variable {text : Text} {c : Char}

theorem all_isPlain {kind : Char → Bool} (all : text.all kind = true)
    (plain : ∀ c, kind c = true → isPlain c = true) : text.all isPlain = true :=
  List.all_eq_true.mpr fun c member => plain c (List.all_eq_true.mp all c member)

theorem isPlain_of_isLetter (letter : isLetter c = true) : isPlain c = true := by
  rw [isPlain, letter]
  rfl

theorem isPlain_of_isDigit (digit : isDigit c = true) : isPlain c = true := by
  rw [isPlain, digit, Bool.or_true]
  rfl

theorem isPlain_of_isGap (gap : isGap c = true) : isPlain c = true := by
  rw [isPlain, gap, Bool.or_true]
  rfl

/-- No other character is among plain ones, -/
theorem count_of_all_isPlain (all : text.all isPlain = true) (other : isPlain c = false) :
    text.count c = 0 := by
  apply List.count_eq_zero.mpr
  intro member
  exact Bool.false_ne_true (other.symm.trans (List.all_eq_true.mp all c member))

/-- and no parenthesis and no comma. -/
theorem balanced_of_all_isPlain {commas : Bool} (all : text.all isPlain = true) :
    Balanced commas text := by
  induction text with
  | nil => exact .nil commas
  | cons c text inductionHypothesis =>
      rw [List.all_cons, Bool.and_eq_true] at all
      have differs {d : Char} (other : isPlain d = false) : c ≠ d := by
        rintro rfl
        exact Bool.false_ne_true (other.symm.trans all.1)
      exact .char (differs (by decide)) (differs (by decide)) (.inr (differs (by decide)))
        (inductionHypothesis all.2)

end Text

theorem Numeral.all_isPlain (numeral : Numeral) : numeral.text.all Text.isPlain = true := by
  have digits {text : Text} (all : text.all Text.isDigit = true) :
      text.all Text.isPlain = true :=
    Text.all_isPlain all fun _ => Text.isPlain_of_isDigit
  have point : numeral.pointText.all Text.isPlain = true := by
    have all := numeral.fractionDigits
    rw [pointText]
    cases written : numeral.fraction with
    | none => rfl
    | some fraction =>
        rw [written, Option.getD_some] at all
        rw [List.all_cons, digits all]
        rfl
  have exponent : numeral.exponentText.all Text.isPlain = true := by
    rw [exponentText]
    cases numeral.exponent with
    | none => rfl
    | some exponent =>
        have mark : Text.isPlain exponent.mark = true := by
          rcases exponent.isMark with mark | mark <;> rw [mark] <;> rfl
        have sign : (exponent.sign.toList.map Sign.char).all Text.isPlain = true := by
          cases exponent.sign with
          | none => rfl
          | some sign => cases sign <;> rfl
        change exponent.text.all Text.isPlain = true
        rw [Exponent.text, List.all_cons, List.all_append, mark, sign, digits exponent.digits.all]
        rfl
  rw [text, List.all_append, List.all_append, digits numeral.wholeDigits, point, exponent]
  rfl

theorem Balanced.allow {commas : Bool} {text : Text} (balanced : Balanced commas text) :
    Balanced true text := by
  induction balanced with
  | nil commas => exact .nil true
  | char unopened unclosed _ _ inductionHypothesis =>
      exact .char unopened unclosed (.inl rfl) inductionHypothesis
  | parentheses inside _ _ inductionHypothesis => exact .parentheses inside inductionHypothesis

theorem Arguments.balanced_text {arguments : List Text}
    (balanced : ∀ argument ∈ arguments, Balanced false argument) :
    Balanced true (text arguments) := by
  induction arguments with
  | nil => exact .nil true
  | cons argument arguments inductionHypothesis =>
      obtain ⟨first, later⟩ := List.forall_mem_cons.mp balanced
      cases arguments with
      | nil => exact first.allow
      | cons next arguments =>
          exact first.allow.append (.char (by decide) (by decide) (.inl rfl)
            (inductionHypothesis later))

/-- What stands before the first argument belongs to it. -/
theorem Arguments.text_append_cons (before argument : Text) (arguments : List Text) :
    text ((before ++ argument) :: arguments) = before ++ text (argument :: arguments) := by
  cases arguments with
  | nil => rfl
  | cons next arguments => rw [text, text, List.append_assoc]

/-- Every text with balanced parentheses is one or more arguments with commas between them. -/
theorem Arguments.exists_text_eq {inside : Text} (balanced : Balanced true inside) :
    ∃ argument arguments, (∀ part ∈ argument :: arguments, Balanced false part) ∧
      text (argument :: arguments) = inside := by
  generalize allowed : true = commas at balanced
  induction balanced with
  | nil => exact ⟨[], [], List.forall_mem_singleton.mpr (.nil false), rfl⟩
  | @char commas c rest unopened unclosed _ _ inductionHypothesis =>
      obtain ⟨argument, arguments, balanced, rfl⟩ := inductionHypothesis allowed
      obtain ⟨first, others⟩ := List.forall_mem_cons.mp balanced
      by_cases comma : c = ','
      · subst comma
        exact ⟨[], argument :: arguments, List.forall_mem_cons.mpr ⟨.nil false, balanced⟩, rfl⟩
      · refine ⟨c :: argument, arguments, List.forall_mem_cons.mpr ⟨?_, others⟩, ?_⟩
        · exact .char unopened unclosed (.inr comma) first
        · exact text_append_cons [c] argument arguments
  | @parentheses commas inner rest inside _ _ inductionHypothesis =>
      obtain ⟨argument, arguments, balanced, rfl⟩ := inductionHypothesis allowed
      obtain ⟨first, others⟩ := List.forall_mem_cons.mp balanced
      refine ⟨'(' :: (inner ++ ')' :: argument), arguments,
        List.forall_mem_cons.mpr ⟨?_, others⟩, ?_⟩
      · exact .parentheses inside first
      · have moved := text_append_cons ('(' :: (inner ++ [')'])) argument arguments
        simpa using moved

namespace Expression

variable {strength : Nat} {expression : Expression} {text : Text}

theorem balanced_of_isGap {gap : Text} (blank : gap.all Text.isGap = true) : Balanced true gap :=
  (Reader.balanced_of_isGap blank).allow

theorem Renders.balanced (renders : expression.Renders strength text) : Balanced true text := by
  have letters (name : Letters) : Balanced true name.text :=
    Text.balanced_of_all_isPlain (Text.all_isPlain name.all fun _ => Text.isPlain_of_isLetter)
  have digits (row : Digits) : Balanced true row.text :=
    Text.balanced_of_all_isPlain (Text.all_isPlain row.all fun _ => Text.isPlain_of_isDigit)
  induction renders with
  | number numeral => exact Text.balanced_of_all_isPlain numeral.all_isPlain
  | reference column row => exact (letters column).append (digits row)
  | signed sign blank _ inductionHypothesis =>
      have operand := (balanced_of_isGap blank).append inductionHypothesis
      cases sign <;> exact .char (by decide) (by decide) (.inl rfl) operand
  | binary operator _ blankBefore blankBehind _ leftHypothesis rightHypothesis =>
      have right := (balanced_of_isGap blankBehind).append rightHypothesis
      refine leftHypothesis.append ((balanced_of_isGap blankBefore).append ?_)
      cases operator <;> exact .char (by decide) (by decide) (.inl rfl) right
  | group blankBefore blankBehind _ inductionHypothesis =>
      have inside := (balanced_of_isGap blankBefore).append
        (inductionHypothesis.append (balanced_of_isGap blankBehind))
      have whole := Balanced.parentheses inside (.nil true)
      rwa [List.append_assoc, List.append_assoc] at whole
  | call function blank balanced =>
      exact (letters function).append ((balanced_of_isGap blank).append
        (.parentheses (Arguments.balanced_text balanced) (.nil true)))
  | bareCall function blank blankInside =>
      exact (letters function).append ((balanced_of_isGap blank).append
        (.parentheses (balanced_of_isGap blankInside) (.nil true)))
  | weaken _ inductionHypothesis => exact inductionHypothesis

/-- A character that belongs to no token stands in the arguments of calls only. -/
theorem Renders.count_eq (renders : expression.Renders strength text) {c : Char}
    (other : Text.isPlain c = false) (unopened : c ≠ '(') (unclosed : c ≠ ')') :
    text.count c = expression.inside.count c := by
  have letters (name : Letters) : name.text.count c = 0 :=
    Text.count_of_all_isPlain (Text.all_isPlain name.all fun _ => Text.isPlain_of_isLetter) other
  have digits (row : Digits) : row.text.count c = 0 :=
    Text.count_of_all_isPlain (Text.all_isPlain row.all fun _ => Text.isPlain_of_isDigit) other
  have gaps {gap : Text} (blank : gap.all Text.isGap = true) : gap.count c = 0 :=
    Text.count_of_all_isPlain (Text.all_isPlain blank fun _ => Text.isPlain_of_isGap) other
  have cons {d : Char} (plain : Text.isPlain d = true) (rest : Text) :
      (d :: rest).count c = rest.count c := by
    apply List.count_cons_of_ne
    rintro rfl
    exact Bool.false_ne_true (other.symm.trans plain)
  have parenthesized (inner : Text) : ('(' :: (inner ++ [')'])).count c = inner.count c := by
    rw [List.count_cons_of_ne unopened.symm, List.count_append,
      List.count_cons_of_ne unclosed.symm]
    rfl
  induction renders with
  | number numeral => exact Text.count_of_all_isPlain numeral.all_isPlain other
  | reference column row => rw [List.count_append, letters, digits, inside, List.count_nil]
  | signed sign blank _ inductionHypothesis =>
      have plain : Text.isPlain sign.char = true := by cases sign <;> rfl
      rw [cons plain, List.count_append, gaps blank, Nat.zero_add, inductionHypothesis, inside]
  | binary operator _ blankBefore blankBehind _ leftHypothesis rightHypothesis =>
      have plain : Text.isPlain operator.char = true := by cases operator <;> rfl
      rw [List.count_append, List.count_append, cons plain, List.count_append, gaps blankBefore,
        gaps blankBehind, Nat.zero_add, Nat.zero_add, leftHypothesis, rightHypothesis, inside,
        List.count_append]
  | @group before text behind inner blankBefore blankBehind _ inductionHypothesis =>
      have grouped := parenthesized (before ++ (text ++ behind))
      rw [List.append_assoc, List.append_assoc] at grouped
      rw [grouped, List.count_append, List.count_append, gaps blankBefore, gaps blankBehind,
        Nat.zero_add, Nat.add_zero, inductionHypothesis, inside]
  | call function blank balanced =>
      rw [List.count_append, List.count_append, letters, gaps blank, parenthesized, Nat.zero_add,
        Nat.zero_add, inside]
  | bareCall function blank blankInside =>
      rw [List.count_append, List.count_append, letters, gaps blank, parenthesized,
        gaps blankInside]
      rfl
  | weaken _ inductionHypothesis => exact inductionHypothesis

example : [':', '!', '$', ','].any Text.isPlain = false := by decide

/-- The last character of an operand: a digit, a point or a closing parenthesis. -/
def Ends (text : Text) : Prop :=
  ∃ front last, text = front ++ [last] ∧
    (Text.isDigit last = true ∨ last = '.' ∨ last = ')')

theorem Ends.append {text : Text} (ends : Ends text) (before : Text) : Ends (before ++ text) := by
  obtain ⟨front, last, rfl, kind⟩ := ends
  exact ⟨before ++ front, last, (List.append_assoc _ _ _).symm, kind⟩

theorem ends_of_digits {text : Text} (nonempty : text ≠ [])
    (all : text.all Text.isDigit = true) : Ends text := by
  refine ⟨text.dropLast, text.getLast nonempty, (List.dropLast_append_getLast nonempty).symm, ?_⟩
  exact .inl (List.all_eq_true.mp all _ (List.getLast_mem nonempty))

theorem ends_numeral (numeral : Numeral) : Ends numeral.text := by
  rw [Numeral.text, Numeral.exponentText, Numeral.pointText]
  cases numeral.exponent with
  | some exponent =>
      have digits := ends_of_digits exponent.digits.nonempty exponent.digits.all
      rw [← List.append_assoc]
      exact (digits.append (exponent.mark :: exponent.sign.toList.map Sign.char)).append _
  | none =>
      have whole := numeral.wholeDigits
      have behind := numeral.fractionDigits
      have nonempty := numeral.nonempty
      dsimp only
      rw [List.append_nil]
      cases written : numeral.fraction with
      | none =>
          rw [written, Option.getD_none, List.append_nil] at nonempty
          rw [List.append_nil]
          exact ends_of_digits nonempty whole
      | some digits =>
          rw [written, Option.getD_some] at behind
          by_cases none : digits = []
          · rw [none]
            exact ⟨numeral.whole, '.', rfl, .inr (.inl rfl)⟩
          · exact ((ends_of_digits none behind).append ['.']).append numeral.whole

/-- An expression ends with a whole operand. -/
theorem Renders.ends (renders : expression.Renders strength text) : Ends text := by
  have closing (before : Text) : Ends (before ++ [')']) := ⟨before, ')', rfl, .inr (.inr rfl)⟩
  induction renders with
  | number numeral => exact ends_numeral numeral
  | reference column row => exact (ends_of_digits row.nonempty row.all).append column.text
  | signed sign _ _ inductionHypothesis => exact inductionHypothesis.append (sign.char :: _)
  | binary operator _ _ _ _ _ rightHypothesis =>
      exact ((rightHypothesis.append (operator.char :: _)).append _).append _
  | @group before text behind inner _ _ _ _ =>
      have whole := closing ('(' :: (before ++ (text ++ behind)))
      rwa [List.cons_append, List.append_assoc, List.append_assoc] at whole
  | call function _ _ => exact ((closing ('(' :: _)).append _).append _
  | bareCall function _ _ => exact ((closing ('(' :: _)).append _).append _
  | weaken _ inductionHypothesis => exact inductionHypothesis

end Expression

/-- A text that has a value, whatever has been asked and answered, writes one
expression with calls of registered functions and no other expression.  So its
parentheses are balanced, characters that belong to no token stand in the arguments of
its calls only, and nothing but a gap stands behind its last operand. -/
theorem Registry.unique_expression_of_value {functions : Registry} {room : Nat} {text : Text}
    {exchange : Exchange} {value : Number}
    (valued : (functions.expression room text).Transcript exchange (.ok value)) :
    ∃ expression : Expression, expression.Writes text ∧
      expression.Proper (fun name => (functions.find? name).isSome = true) ∧
      (∀ other : Expression, other.Writes text → other.Proper (fun _ => True) →
        other = expression) ∧
      Balanced true text ∧
      (∀ c, Text.isPlain c = false → c ≠ '(' → c ≠ ')' →
        text.count c = expression.inside.count c) ∧
      ∃ front gap, text = front ++ gap ∧ gap.all Text.isGap = true ∧ Expression.Ends front := by
  obtain ⟨expression, writes, proper⟩ :=
    Formula.exists_writes_of_whole (whole_of_transcript valued)
  refine ⟨expression, writes, proper, ?_, ?_⟩
  · intro other writes' proper'
    exact Expression.eq_of_writes proper' proper writes' writes
  obtain ⟨before, inner, behind, blankBefore, blankBehind, renders, rfl⟩ := writes
  constructor
  · exact (Expression.balanced_of_isGap blankBefore).append
      (renders.balanced.append (Expression.balanced_of_isGap blankBehind))
  constructor
  · intro c other unopened unclosed
    have none {gap : Text} (blank : gap.all Text.isGap = true) : gap.count c = 0 :=
      Text.count_of_all_isPlain (Text.all_isPlain blank fun _ => Text.isPlain_of_isGap) other
    rw [List.count_append, List.count_append, none blankBefore, none blankBehind, Nat.zero_add,
      Nat.add_zero, renders.count_eq other unopened unclosed]
  · exact ⟨before ++ inner, behind, (List.append_assoc _ _ _).symm, blankBehind,
      renders.ends.append before⟩

/-- Answered with twos, the sum has the value four, and no other expression is written
like it. -/
theorem Registry.unique_expression_of_value_sumTimes :
    (∃ exchange, (builtins.expression 50 "SUM(A1:A2,-B1)*C1".toList).Transcript exchange
      (.ok (.ofNat 4))) ∧
    ∀ other : Expression, other.Writes "SUM(A1:A2,-B1)*C1".toList →
      other.Proper (fun _ => True) → other = .sumTimes := by
  let query := builtins.expression 50 "SUM(A1:A2,-B1)*C1".toList
  have outcome : query.outcome (fun _ => .number (.ofNat 2)) = .ok (.ofNat 4) := by decide +kernel
  have transcript := query.transcript_of_answers fun _ => .number (.ofNat 2)
  rw [outcome] at transcript
  obtain ⟨expression, -, -, unique, -⟩ := unique_expression_of_value transcript
  have proper : Expression.sumTimes.Proper fun _ => True := ⟨⟨trivial, nofun⟩, trivial⟩
  constructor
  · exact ⟨_, transcript⟩
  · intro other writes otherProper
    rw [unique other writes otherProper, unique _ Expression.sumTimes_writes proper]

end Spreadsheet
