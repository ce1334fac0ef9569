import Spreadsheet.Proofs.Formula.Acceptance

/-!
# One expression for each text

A text is written by at most one expression with proper calls.  Two of them have the
same formula, since it is read from the text, and so the same shape.  Their tokens
are compared from left to right: a run of characters of one kind ends where another
kind begins, a numeral is as long as it can be, and an argument ends at the first
comma or closing parenthesis that is not inside further parentheses.
-/

namespace Spreadsheet

/-! ## Runs of characters -/

/-- Runs of one kind that are followed by another kind. -/
theorem Text.run_append_inj {kind : Char → Bool} {run run' rest rest' : Text}
    (all : run.all kind = true) (all' : run'.all kind = true)
    (stops : rest.takeWhile kind = []) (stops' : rest'.takeWhile kind = [])
    (same : run ++ rest = run' ++ rest') : run = run' ∧ rest = rest' := by
  have first : (run ++ rest).takeWhile kind = run := by
    rw [List.takeWhile_append_of_pos (List.all_eq_true.mp all), stops, List.append_nil]
  have first' : (run' ++ rest').takeWhile kind = run' := by
    rw [List.takeWhile_append_of_pos (List.all_eq_true.mp all'), stops', List.append_nil]
  rw [same, first'] at first
  subst first
  exact ⟨rfl, List.append_cancel_left same⟩

/-- A gap is of no kind that neither the blank nor the tab is of. -/
theorem Text.isGap_eq_false {kind : Char → Bool} {c : Char} (belongs : kind c = true)
    (blank : kind ' ' = false) (tab : kind '\t' = false) : isGap c = false := by
  rw [← Bool.not_eq_true]
  intro gap
  simp only [isGap, Bool.or_eq_true, beq_iff_eq] at gap
  rcases gap with rfl | rfl
  · exact Bool.false_ne_true (blank.symm.trans belongs)
  · exact Bool.false_ne_true (tab.symm.trans belongs)

theorem Text.takeWhile_isLetter_gap {gap : Text} (blank : gap.all isGap = true) (rest : Text) :
    (gap ++ '(' :: rest).takeWhile isLetter = [] := by
  cases gap with
  | nil => rfl
  | cons c gap =>
      rw [List.all_cons, Bool.and_eq_true] at blank
      rw [List.cons_append, List.takeWhile_cons_of_neg]
      intro letter
      exact Bool.false_ne_true ((isGap_eq_false letter rfl rfl).symm.trans blank.1)

/-- What may stand behind an operand, or nothing. -/
def Reader.Follows (rest : Text) : Prop :=
  ∀ c ∈ rest.head?, c ∈ delimiters

namespace Reader.Follows

variable {rest : Text} {c : Char}

theorem cons (delimiter : c ∈ delimiters) (rest : Text) : Follows (c :: rest) := by
  rintro d ⟨⟩
  exact delimiter

theorem of_gap {gap : Text} (blank : gap.all Text.isGap = true) (follows : Follows rest) :
    Follows (gap ++ rest) := by
  cases gap with
  | nil => exact follows
  | cons c gap =>
      rw [List.all_cons, Bool.and_eq_true] at blank
      exact cons (mem_delimiters_of_isGap blank.1) _

/-- A run of another kind ends there. -/
theorem takeWhile {kind : Char → Bool} (follows : Follows rest)
    (other : (delimiters.any kind) = false) : rest.takeWhile kind = [] := by
  cases rest with
  | nil => rfl
  | cons c rest =>
      rw [List.takeWhile_cons_of_neg]
      exact List.any_eq_false.mp other c (follows c rfl)

end Reader.Follows

/-! ## Numerals -/

theorem Digits.text_injective {digits digits' : Digits} (same : digits.text = digits'.text) :
    digits = digits' := by
  cases digits
  cases digits'
  cases same
  rfl

theorem Letters.text_injective {letters letters' : Letters}
    (same : letters.text = letters'.text) : letters = letters' := by
  cases letters
  cases letters'
  cases same
  rfl

theorem Digits.takeWhile_isLetter (digits : Digits) (rest : Text) :
    (digits.text ++ rest).takeWhile Text.isLetter = [] := by
  have all := digits.all
  cases written : digits.text with
  | nil => exact absurd written digits.nonempty
  | cons c text =>
      rw [written, List.all_cons, Bool.and_eq_true] at all
      rw [List.cons_append, List.takeWhile_cons_of_neg]
      intro letter
      exact Bool.false_ne_true ((Text.not_isDigit_of_isLetter letter).symm.trans all.1)

theorem Exponent.text_injective {exponent exponent' : Exponent}
    (same : exponent.text = exponent'.text) : exponent = exponent' := by
  have noSign {sign : Sign} {digits : Digits} {rest : Text} :
      digits.text ≠ sign.char :: rest := by
    intro written
    have all := digits.all
    rw [written, List.all_cons, Bool.and_eq_true] at all
    cases sign <;> exact absurd all.1 (by decide)
  obtain ⟨mark, sign, digits, isMark⟩ := exponent
  obtain ⟨mark', sign', digits', isMark'⟩ := exponent'
  obtain ⟨rfl, rest⟩ := List.cons.inj same
  dsimp only at rest
  rcases sign with _ | sign <;> rcases sign' with _ | sign'
  · cases Digits.text_injective rest
    rfl
  · exact absurd rest noSign
  · exact absurd rest.symm noSign
  · obtain ⟨sameSign, sameDigits⟩ := List.cons.inj rest
    cases Digits.text_injective sameDigits
    cases sign <;> cases sign' <;> first | rfl | exact absurd sameSign (by decide)

theorem Numeral.text_injective {numeral numeral' : Numeral}
    (same : numeral.text = numeral'.text) : numeral = numeral' := by
  have wholes := numeral.takeWhile_text
  have rests := numeral.dropWhile_text
  have scans := NumeralScan.foldlM_numeral numeral
  rw [same, takeWhile_text] at wholes
  rw [same, dropWhile_text] at rests
  rw [same, NumeralScan.foldlM_numeral, Option.some.injEq, NumeralScan.mk.injEq] at scans
  have fractions := numeral.fraction_text
  rw [← rests, fraction_text, Prod.mk.injEq] at fractions
  obtain ⟨-, points, marks, -⟩ := scans
  obtain ⟨digits, exponents⟩ := fractions
  rw [exponentText, exponentText] at exponents
  obtain ⟨whole, fraction, exponent, _, _, _⟩ := numeral
  obtain ⟨whole', fraction', exponent', _, _, _⟩ := numeral'
  dsimp only at wholes points marks digits exponents
  have sameFraction : fraction' = fraction := by
    rcases fraction with _ | fraction <;> rcases fraction' with _ | fraction'
    · rfl
    · cases points
    · cases points
    · exact congrArg some digits
  have sameExponent : exponent' = exponent := by
    rcases exponent with _ | exponent <;> rcases exponent' with _ | exponent'
    · rfl
    · cases marks
    · cases marks
    · exact congrArg some (Exponent.text_injective exponents)
  subst wholes sameFraction sameExponent
  rfl

/-- A numeral goes on as long as it can, so none goes on where another one has
ended. -/
theorem Numeral.not_longer {numeral numeral' : Numeral} {more rest rest' : Text}
    (follows : Reader.Follows rest) (longer : numeral'.text = numeral.text ++ more)
    (same : rest = more ++ rest') : more = [] := by
  cases more with
  | nil => rfl
  | cons c more =>
      have delimiter : c ∈ Reader.delimiters := by
        apply follows c
        rw [same]
        rfl
      have scans := NumeralScan.foldlM_numeral numeral'
      rw [longer, List.foldlM_append, NumeralScan.foldlM_numeral] at scans
      change (c :: more).foldlM NumeralScan.step? _ = _ at scans
      rw [List.foldlM_cons, NumeralScan.step?_delimiter rfl delimiter] at scans
      cases scans

theorem Numeral.text_append_inj {numeral numeral' : Numeral} {rest rest' : Text}
    (follows : Reader.Follows rest) (follows' : Reader.Follows rest')
    (same : numeral.text ++ rest = numeral'.text ++ rest') :
    numeral = numeral' ∧ rest = rest' := by
  rcases List.append_eq_append_iff.mp same with ⟨more, longer, behind⟩ | ⟨more, longer, behind⟩
  · cases not_longer follows longer behind
    rw [List.append_nil] at longer
    exact ⟨text_injective longer.symm, behind⟩
  · cases not_longer follows' longer behind
    rw [List.append_nil] at longer
    exact ⟨text_injective longer, behind.symm⟩

/-! ## Arguments -/

namespace Arguments

/-- A balanced text belongs to one argument. -/
theorem firstLength_balanced {commas : Bool} {text : Text} (balanced : Balanced commas text)
    {depth : Nat} (open' : commas = true → 0 < depth) (rest : Text) :
    firstLength depth (text ++ rest) = text.length + firstLength depth rest := by
  induction balanced generalizing depth rest with
  | nil commas => exact (Nat.zero_add _).symm
  | @char commas c text unopened unclosed plain _ inductionHypothesis =>
      have separator : ¬ (c = ',' && depth = 0) = true := by
        simp only [Bool.and_eq_true, decide_eq_true_eq, not_and]
        rcases plain with allowed | other
        · intro _ shut
          exact absurd (open' allowed) (Nat.not_lt_of_le (Nat.le_of_eq shut))
        · exact fun comma => absurd comma other
      have step : firstLength depth (c :: (text ++ rest)) =
          firstLength depth (text ++ rest) + 1 := by
        rw [firstLength.eq_def]
        simp only [if_neg unopened, if_neg unclosed, if_neg separator]
      rw [List.cons_append, step, inductionHypothesis open', List.length_cons,
        Nat.add_right_comm]
  | @parentheses commas inner text _ _ innerHypothesis restHypothesis =>
      have opens (text : Text) :
          firstLength depth ('(' :: text) = firstLength (depth + 1) text + 1 := by
        rw [firstLength.eq_def]
        rfl
      have closes : firstLength (depth + 1) (')' :: (text ++ rest)) =
          firstLength depth (text ++ rest) + 1 := rfl
      rw [List.cons_append, List.append_assoc, List.cons_append, opens,
        innerHypothesis (fun _ => Nat.succ_pos depth), closes, restHypothesis open',
        List.length_cons, List.length_append, List.length_cons]
      omega

/-- An argument ends at its comma or at the closing parenthesis of the list. -/
theorem append_cons_inj {argument argument' rest rest' : Text} {c d : Char}
    (balanced : Balanced false argument) (balanced' : Balanced false argument')
    (ends : c = ',' ∨ c = ')') (ends' : d = ',' ∨ d = ')')
    (same : argument ++ c :: rest = argument' ++ d :: rest') :
    argument = argument' ∧ c = d ∧ rest = rest' := by
  have shut : false = true → 0 < 0 := nofun
  have zero {e : Char} (ending : e = ',' ∨ e = ')') (text : Text) :
      firstLength 0 (e :: text) = 0 := by
    rcases ending with rfl | rfl <;> rfl
  have lengths := congrArg (firstLength 0) same
  rw [firstLength_balanced balanced shut, firstLength_balanced balanced' shut, zero ends,
    zero ends'] at lengths
  obtain ⟨arguments, rests⟩ := List.append_inj same lengths
  exact ⟨arguments, List.cons.inj rests⟩

theorem text_append_inj {arguments arguments' : List Text} {rest rest' : Text}
    (nonempty : arguments ≠ []) (nonempty' : arguments' ≠ [])
    (balanced : ∀ argument ∈ arguments, Balanced false argument)
    (balanced' : ∀ argument ∈ arguments', Balanced false argument)
    (same : text arguments ++ ')' :: rest = text arguments' ++ ')' :: rest') :
    arguments = arguments' ∧ rest = rest' := by
  induction arguments generalizing arguments' with
  | nil => exact absurd rfl nonempty
  | cons argument arguments inductionHypothesis =>
      obtain ⟨first, later⟩ := List.forall_mem_cons.mp balanced
      cases arguments' with
      | nil => exact absurd rfl nonempty'
      | cons argument' arguments' =>
          obtain ⟨first', later'⟩ := List.forall_mem_cons.mp balanced'
          cases arguments with
          | nil =>
              cases arguments' with
              | nil =>
                  obtain ⟨rfl, -, rfl⟩ :=
                    append_cons_inj first first' (.inr rfl) (.inr rfl) same
                  exact ⟨rfl, rfl⟩
              | cons next' arguments' =>
                  rw [text, text, List.append_assoc, List.cons_append] at same
                  exact absurd (append_cons_inj first first' (.inr rfl) (.inl rfl) same).2.1
                    (by decide)
          | cons next arguments =>
              cases arguments' with
              | nil =>
                  rw [text, text, List.append_assoc, List.cons_append] at same
                  exact absurd (append_cons_inj first first' (.inl rfl) (.inr rfl) same).2.1
                    (by decide)
              | cons next' arguments' =>
                  rw [text, text, List.append_assoc, List.append_assoc, List.cons_append,
                    List.cons_append] at same
                  obtain ⟨rfl, -, rests⟩ :=
                    append_cons_inj first first' (.inl rfl) (.inl rfl) same
                  obtain ⟨same', rfl⟩ := inductionHypothesis (List.cons_ne_nil _ _)
                    (List.cons_ne_nil _ _) later later' rests
                  exact ⟨congrArg _ same', rfl⟩

end Arguments

/-! ## Expressions -/

namespace Expression

/-- What a text looks like that writes an expression, whatever its strength.  The list
of the arguments of a call is never empty here: no argument is written like a lone one
of nothing but blanks and tabs. -/
def Shape : Expression → Text → Prop
  | number numeral, text => text = numeral.text
  | reference column row, text => text = column.text ++ row.text
  | signed sign operand, text =>
      ∃ gap inner, gap.all Text.isGap = true ∧ operand.Renders operandStrength inner ∧
        text = sign.char :: (gap ++ inner)
  | binary operator left right, text =>
      ∃ leftText before behind rightText, left.Renders operator.strength leftText ∧
        before.all Text.isGap = true ∧ behind.all Text.isGap = true ∧
          right.Renders (operator.strength + 1) rightText ∧
            text = leftText ++ (before ++ operator.char :: (behind ++ rightText))
  | group inner, text =>
      ∃ before innerText behind, before.all Text.isGap = true ∧ behind.all Text.isGap = true ∧
        inner.Renders Operator.add.strength innerText ∧
          text = '(' :: (before ++ (innerText ++ (behind ++ [')'])))
  | call function arguments, text =>
      ∃ gap written, gap.all Text.isGap = true ∧ written ≠ [] ∧
        (∀ argument ∈ written, Balanced false argument) ∧
          (written = arguments ∨
            arguments = [] ∧ ∃ inside, inside.all Text.isGap = true ∧ written = [inside]) ∧
            text = function.text ++ (gap ++ '(' :: (Arguments.text written ++ [')']))

variable {strength : Nat} {expression : Expression} {text : Text}

theorem Renders.shape (renders : expression.Renders strength text) : expression.Shape text := by
  induction renders with
  | number numeral => rfl
  | reference column row => rfl
  | signed sign blank operandRenders => exact ⟨_, _, blank, operandRenders, rfl⟩
  | binary operator leftRenders blankBefore blankBehind rightRenders =>
      exact ⟨_, _, _, _, leftRenders, blankBefore, blankBehind, rightRenders, rfl⟩
  | group blankBefore blankBehind innerRenders =>
      exact ⟨_, _, _, blankBefore, blankBehind, innerRenders, rfl⟩
  | @call function gap arguments blank balanced =>
      cases arguments with
      | nil =>
          refine ⟨gap, [[]], blank, List.cons_ne_nil _ _, ?_, .inr ⟨rfl, [], rfl, rfl⟩, rfl⟩
          exact List.forall_mem_singleton.mpr (.nil false)
      | cons argument arguments =>
          exact ⟨gap, _, blank, List.cons_ne_nil _ _, balanced, .inl rfl, rfl⟩
  | @bareCall function gap inside blank blankInside =>
      refine ⟨gap, [inside], blank, List.cons_ne_nil _ _, ?_,
        .inr ⟨rfl, inside, blankInside, rfl⟩, rfl⟩
      exact List.forall_mem_singleton.mpr (Reader.balanced_of_isGap blankInside)
  | weaken _ inductionHypothesis => exact inductionHypothesis

theorem exists_letters_eq_cons (letters : Letters) (behind : Text) :
    ∃ c rest, letters.text ++ behind = c :: rest ∧ Text.isGap c = false := by
  have all := letters.all
  cases written : letters.text with
  | nil => exact absurd written letters.nonempty
  | cons c name =>
      rw [written, List.all_cons, Bool.and_eq_true] at all
      exact ⟨c, name ++ behind, rfl, Text.isGap_eq_false all.1 rfl rfl⟩

theorem Renders.exists_eq_cons (renders : expression.Renders strength text) :
    ∃ c rest, text = c :: rest ∧ Text.isGap c = false := by
  induction renders with
  | number numeral =>
      obtain ⟨c, behind, written, starts⟩ := numeral.text_cases
      exact ⟨c, behind, written, Text.isGap_eq_false starts rfl rfl⟩
  | reference column row => exact exists_letters_eq_cons column _
  | signed sign _ _ => cases sign <;> exact ⟨_, _, rfl, rfl⟩
  | binary operator _ _ _ _ leftHypothesis =>
      obtain ⟨c, rest, rfl, solid⟩ := leftHypothesis
      exact ⟨c, _, rfl, solid⟩
  | group _ _ _ => exact ⟨_, _, rfl, rfl⟩
  | call function _ _ => exact exists_letters_eq_cons function _
  | bareCall function _ _ => exact exists_letters_eq_cons function _
  | weaken _ inductionHypothesis => exact inductionHypothesis

theorem Renders.takeWhile_isGap (renders : expression.Renders strength text) (rest : Text) :
    (text ++ rest).takeWhile Text.isGap = [] := by
  obtain ⟨c, behind, rfl, solid⟩ := renders.exists_eq_cons
  rw [List.cons_append, List.takeWhile_cons_of_neg]
  rw [solid]
  exact Bool.false_ne_true

/-- The arguments of a proper call are known from what is written. -/
theorem arguments_eq_of_written {arguments arguments' written : List Text}
    (proper : ∀ argument, arguments = [argument] → argument.all Text.isGap = false)
    (proper' : ∀ argument, arguments' = [argument] → argument.all Text.isGap = false)
    (stands : written = arguments ∨
      arguments = [] ∧ ∃ inside, inside.all Text.isGap = true ∧ written = [inside])
    (stands' : written = arguments' ∨
      arguments' = [] ∧ ∃ inside, inside.all Text.isGap = true ∧ written = [inside]) :
    arguments = arguments' := by
  rcases stands with rfl | ⟨rfl, inside, blank, rfl⟩
  · rcases stands' with rfl | ⟨rfl, inside, blank, rfl⟩
    · rfl
    · exact absurd ((proper inside rfl).symm.trans blank) Bool.false_ne_true
  · rcases stands' with rfl | ⟨rfl, -⟩
    · exact absurd ((proper' inside rfl).symm.trans blank) Bool.false_ne_true
    · rfl

/-- What a text with something behind it writes is one expression, and it ends in one
place. -/
theorem eq_of_renders {known known' : Text → Prop} {expression expression' : Expression}
    {strength strength' : Nat} {text text' rest rest' : Text}
    (formula : expression.formula = expression'.formula)
    (proper : expression.Proper known) (proper' : expression'.Proper known')
    (renders : expression.Renders strength text) (renders' : expression'.Renders strength' text')
    (follows : Reader.Follows rest) (follows' : Reader.Follows rest')
    (same : text ++ rest = text' ++ rest') : expression = expression' ∧ rest = rest' := by
  -- Part by part is taken off both texts, and each ends where no character of its kind
  -- follows, so that it is the same part and the same is left behind it.
  induction expression generalizing expression' strength strength' text text' rest rest' with
  | number numeral =>
      cases expression' with
      | number numeral' =>
          cases renders.shape
          cases renders'.shape
          obtain ⟨rfl, rfl⟩ := Numeral.text_append_inj follows follows' same
          exact ⟨rfl, rfl⟩
      | _ => cases formula
  | reference column row =>
      cases expression' with
      | reference column' row' =>
          cases renders.shape
          cases renders'.shape
          have noDigit : Reader.delimiters.any Text.isDigit = false := by decide
          rw [List.append_assoc, List.append_assoc] at same
          obtain ⟨columns, behindColumn⟩ := Text.run_append_inj column.all column'.all
            (row.takeWhile_isLetter rest) (row'.takeWhile_isLetter rest') same
          obtain ⟨rows, rfl⟩ := Text.run_append_inj row.all row'.all
            (follows.takeWhile noDigit) (follows'.takeWhile noDigit) behindColumn
          cases Letters.text_injective columns
          cases Digits.text_injective rows
          exact ⟨rfl, rfl⟩
      | _ => cases formula
  | signed sign operand inductionHypothesis =>
      cases expression' with
      | signed sign' operand' =>
          obtain ⟨gap, inner, blank, operandRenders, rfl⟩ := renders.shape
          obtain ⟨gap', inner', blank', operandRenders', rfl⟩ := renders'.shape
          obtain ⟨rfl, operandFormula⟩ := Formula.signed.inj formula
          simp only [List.cons_append, List.append_assoc] at same
          obtain ⟨-, operands⟩ := Text.run_append_inj blank blank'
            (operandRenders.takeWhile_isGap rest) (operandRenders'.takeWhile_isGap rest')
            (List.cons.inj same).2
          obtain ⟨rfl, rfl⟩ := inductionHypothesis operandFormula proper proper' operandRenders
            operandRenders' follows follows' operands
          exact ⟨rfl, rfl⟩
      | _ => cases formula
  | binary operator left right leftHypothesis rightHypothesis =>
      cases expression' with
      | binary operator' left' right' =>
          obtain ⟨leftText, before, behind, rightText, leftRenders, blankBefore, blankBehind,
            rightRenders, rfl⟩ := renders.shape
          obtain ⟨leftText', before', behind', rightText', leftRenders', blankBefore',
            blankBehind', rightRenders', rfl⟩ := renders'.shape
          obtain ⟨rfl, leftFormula, rightFormula⟩ := Formula.binary.inj formula
          -- The left operand does not reach past the operation behind it.
          have delimiter : operator.char ∈ Reader.delimiters := by cases operator <;> decide
          have solid (rest : Text) : (operator.char :: rest).takeWhile Text.isGap = [] := by
            cases operator <;> rfl
          simp only [List.append_assoc, List.cons_append] at same
          obtain ⟨rfl, behindLeft⟩ := leftHypothesis leftFormula proper.1 proper'.1 leftRenders
            leftRenders' (.of_gap blankBefore (.cons delimiter _))
            (.of_gap blankBefore' (.cons delimiter _)) same
          obtain ⟨-, operation⟩ := Text.run_append_inj blankBefore blankBefore' (solid _) (solid _)
            behindLeft
          obtain ⟨-, operands⟩ := Text.run_append_inj blankBehind blankBehind'
            (rightRenders.takeWhile_isGap rest) (rightRenders'.takeWhile_isGap rest')
            (List.cons.inj operation).2
          obtain ⟨rfl, rfl⟩ := rightHypothesis rightFormula proper.2 proper'.2 rightRenders
            rightRenders' follows follows' operands
          exact ⟨rfl, rfl⟩
      | _ => cases formula
  | group inner inductionHypothesis =>
      cases expression' with
      | group inner' =>
          obtain ⟨before, innerText, behind, blankBefore, blankBehind, innerRenders, rfl⟩ :=
            renders.shape
          obtain ⟨before', innerText', behind', blankBefore', blankBehind', innerRenders', rfl⟩ :=
            renders'.shape
          have parenthesis : ')' ∈ Reader.delimiters := by decide
          simp only [List.append_assoc, List.cons_append, List.nil_append] at same
          obtain ⟨-, inside⟩ := Text.run_append_inj blankBefore blankBefore'
            (innerRenders.takeWhile_isGap _) (innerRenders'.takeWhile_isGap _)
            (List.cons.inj same).2
          obtain ⟨rfl, behindInner⟩ := inductionHypothesis (Formula.group.inj formula) proper
            proper' innerRenders innerRenders' (.of_gap blankBehind (.cons parenthesis _))
            (.of_gap blankBehind' (.cons parenthesis _)) inside
          obtain ⟨-, rests⟩ := Text.run_append_inj blankBehind blankBehind' rfl rfl behindInner
          exact ⟨rfl, (List.cons.inj rests).2⟩
      | _ => cases formula
  | call function arguments =>
      cases expression' with
      | call function' arguments' =>
          obtain ⟨gap, written, blank, nonempty, balanced, stands, rfl⟩ := renders.shape
          obtain ⟨gap', written', blank', nonempty', balanced', stands', rfl⟩ := renders'.shape
          simp only [List.append_assoc, List.cons_append, List.nil_append] at same
          obtain ⟨names, behindName⟩ := Text.run_append_inj function.all function'.all
            (Text.takeWhile_isLetter_gap blank _) (Text.takeWhile_isLetter_gap blank' _) same
          obtain ⟨-, inside⟩ := Text.run_append_inj blank blank' rfl rfl behindName
          obtain ⟨rfl, rfl⟩ := Arguments.text_append_inj nonempty nonempty' balanced balanced'
            (List.cons.inj inside).2
          cases Letters.text_injective names
          cases arguments_eq_of_written proper.2 proper'.2 stands stands'
          exact ⟨rfl, rfl⟩
      | _ => cases formula

/-- A text is written by at most one expression with proper calls. -/
theorem eq_of_writes {known known' : Text → Prop} {expression expression' : Expression}
    {text : Text} (proper : expression.Proper known) (proper' : expression'.Proper known')
    (writes : expression.Writes text) (writes' : expression'.Writes text) :
    expression = expression' := by
  have formula : expression.formula = expression'.formula :=
    (Formula.ofText_of_writes writes).symm.trans (Formula.ofText_of_writes writes')
  have ends {behind : Text} (blank : behind.all Text.isGap = true) : Reader.Follows behind := by
    rw [← List.append_nil behind]
    exact .of_gap blank nofun
  obtain ⟨before, inner, behind, blankBefore, blankBehind, renders, rfl⟩ := writes
  obtain ⟨before', inner', behind', blankBefore', blankBehind', renders', same⟩ := writes'
  obtain ⟨-, texts⟩ := Text.run_append_inj blankBefore blankBefore'
    (renders.takeWhile_isGap behind) (renders'.takeWhile_isGap behind') same
  exact (eq_of_renders formula proper proper' renders renders' (ends blankBehind)
    (ends blankBehind') texts).1

end Expression

end Spreadsheet
