import Spreadsheet.Proofs.Formula.Grammar

/-!
# Reading numerals

The characters of a numeral are read as one token, which ends at the first
character that may stand behind an operand, and the token is the number that the
numeral writes.
-/

namespace Spreadsheet

/-- The characters that may stand right behind an operand. -/
def Reader.delimiters : List Char := [' ', '\t', '+', '-', '*', '/', ')']

/-! ## The value of a numeral -/

theorem Digits.digits?_text (digits : Digits) :
    Decimal.digits? digits.text = some (Text.digitsValue digits.text) := by
  have nonempty : digits.text.isEmpty = false := by simpa using digits.nonempty
  rw [Decimal.digits?, nonempty, digits.all]
  rfl

theorem Exponent.exponent?_text (exponent : Exponent) :
    Decimal.exponent? exponent.text = some exponent.value := by
  have mark : (exponent.mark = 'e' || exponent.mark = 'E') = true := by
    simpa using exponent.isMark
  unfold Decimal.exponent? text value
  dsimp only
  rw [if_pos mark]
  cases exponent.sign with
  | some sign =>
      cases sign with
      | plus => simp [Sign.char, exponent.digits.digits?_text]
      | minus => simp [Sign.char, exponent.digits.digits?_text]
  | none =>
      have digits := exponent.digits.digits?_text
      have all := exponent.digits.all
      cases written : exponent.digits.text with
      | nil => exact absurd written exponent.digits.nonempty
      | cons d rest =>
          rw [written] at digits all
          rw [List.all_cons, Bool.and_eq_true] at all
          simp only [Option.toList_none, List.map_nil, List.nil_append]
          split
          · next impossible =>
              cases impossible
              exact absurd all.1 (by decide)
          · next impossible =>
              cases impossible
              exact absurd all.1 (by decide)
          · rw [digits]
            rfl

theorem NumeralScan.small_of_starts {c : Char} (starting : starts c = true) :
    Text.small c = c := by
  rw [Text.small, if_neg]
  intro capital
  simp only [Bool.and_eq_true, decide_eq_true_eq] at capital
  simp only [starts, Text.isDigit, Bool.or_eq_true, Bool.and_eq_true, decide_eq_true_eq,
    beq_iff_eq] at starting
  rcases starting with ⟨_, digit⟩ | rfl
  · exact absurd (Char.le_trans capital.1 digit) (by decide)
  · exact absurd capital.1 (by decide)

/-- What begins like a numeral is no word. -/
theorem Number.ofUnsigned?_of_starts {c : Char} (starts : NumeralScan.starts c = true)
    (negative : Bool) (rest : Text) :
    ofUnsigned? negative (c :: rest) =
      (Decimal.ofText? (c :: rest)).map (Decimal.toNumber negative) := by
  have word {d : Char} {letters : Text} (other : NumeralScan.starts d = false) :
      (c :: rest).map Text.small ≠ d :: letters := by
    rw [List.map_cons, NumeralScan.small_of_starts starts]
    intro same
    obtain rfl : c = d := (List.cons.inj same).1
    exact Bool.false_ne_true (other.symm.trans starts)
  have infinity : ¬ ((c :: rest).map Text.small = "inf".toList ∨
      (c :: rest).map Text.small = "infinity".toList) := by
    rintro (same | same)
    · exact word (by decide) same
    · exact word (by decide) same
  have nan : ¬ (c :: rest).map Text.small = "nan".toList := word (by decide)
  simp only [ofUnsigned?, Bool.or_eq_true, decide_eq_true_eq, if_neg infinity, if_neg nan]

theorem Number.ofText?_of_starts {c : Char} (starts : NumeralScan.starts c = true)
    (rest : Text) :
    ofText? (c :: rest) = (Decimal.ofText? (c :: rest)).map (Decimal.toNumber false) := by
  have differs {d : Char} (other : NumeralScan.starts d = false) : c ≠ d := by
    rintro rfl
    exact Bool.false_ne_true (other.symm.trans starts)
  rw [ofText?]
  · exact ofUnsigned?_of_starts starts false rest
  · rintro _ ⟨⟩
    exact differs (by decide) rfl
  · rintro _ ⟨⟩
    exact differs (by decide) rfl

namespace Numeral

variable (numeral : Numeral)

theorem exponentText_cases :
    numeral.exponentText = [] ∨
      ∃ mark rest, (mark = 'e' ∨ mark = 'E') ∧ numeral.exponentText = mark :: rest := by
  rw [exponentText]
  cases numeral.exponent with
  | none => exact .inl rfl
  | some exponent => exact .inr ⟨exponent.mark, _, exponent.isMark, rfl⟩

theorem takeWhile_exponentText : numeral.exponentText.takeWhile Text.isDigit = [] := by
  rcases numeral.exponentText_cases with none | ⟨mark, rest, rfl | rfl, some⟩
  · rw [none]
    rfl
  · rw [some]
    rfl
  · rw [some]
    rfl

theorem dropWhile_exponentText :
    numeral.exponentText.dropWhile Text.isDigit = numeral.exponentText := by
  rcases numeral.exponentText_cases with none | ⟨mark, rest, rfl | rfl, some⟩
  · rw [none]
    rfl
  · rw [some]
    rfl
  · rw [some]
    rfl

theorem fraction_text :
    Decimal.fraction (numeral.pointText ++ numeral.exponentText) =
      (numeral.fraction.getD [], numeral.exponentText) := by
  have digits := List.all_eq_true.mp numeral.fractionDigits
  rw [pointText]
  cases written : numeral.fraction with
  | none =>
      rcases numeral.exponentText_cases with none | ⟨mark, rest, rfl | rfl, some⟩
      · rw [none]
        rfl
      · rw [some]
        rfl
      · rw [some]
        rfl
  | some fraction =>
      rw [written, Option.getD_some] at digits
      dsimp only [Option.getD_some]
      rw [List.cons_append, Decimal.fraction, List.takeWhile_append_of_pos digits,
        List.dropWhile_append_of_pos digits, takeWhile_exponentText, dropWhile_exponentText,
        List.append_nil]

theorem takeWhile_text : numeral.text.takeWhile Text.isDigit = numeral.whole := by
  have digits := List.all_eq_true.mp numeral.wholeDigits
  have rest : (numeral.pointText ++ numeral.exponentText).takeWhile Text.isDigit = [] := by
    rw [pointText]
    cases numeral.fraction with
    | none => exact numeral.takeWhile_exponentText
    | some fraction => rfl
  rw [text, List.takeWhile_append_of_pos digits, rest, List.append_nil]

theorem dropWhile_text :
    numeral.text.dropWhile Text.isDigit = numeral.pointText ++ numeral.exponentText := by
  have digits := List.all_eq_true.mp numeral.wholeDigits
  rw [text, List.dropWhile_append_of_pos digits, pointText]
  cases numeral.fraction with
  | none => exact numeral.dropWhile_exponentText
  | some fraction => rfl

/-- A numeral is read as the decimal that it writes. -/
theorem ofText?_decimal : Decimal.ofText? numeral.text = some numeral.decimal := by
  have nonempty : (numeral.whole ++ numeral.fraction.getD []).isEmpty = false := by
    simpa using numeral.nonempty
  have exponent : Decimal.exponent? numeral.exponentText =
      some ((numeral.exponent.map Exponent.value).getD 0) := by
    rw [exponentText]
    cases numeral.exponent with
    | none => rfl
    | some exponent => exact exponent.exponent?_text
  simp only [Decimal.ofText?, takeWhile_text, dropWhile_text, fraction_text, nonempty, exponent,
    Bool.false_eq_true, if_false, Option.map_some, decimal]

theorem text_cases : ∃ c rest, numeral.text = c :: rest ∧ NumeralScan.starts c = true := by
  rw [text]
  cases whole : numeral.whole with
  | cons d rest =>
      have digits := numeral.wholeDigits
      rw [whole, List.all_cons, Bool.and_eq_true] at digits
      exact ⟨d, _, rfl, by rw [NumeralScan.starts, digits.1, Bool.true_or]⟩
  | nil =>
      rw [pointText]
      cases fraction : numeral.fraction with
      | some digits => exact ⟨'.', _, rfl, rfl⟩
      | none => exact absurd (by rw [whole, fraction]; rfl) numeral.nonempty

/-- A numeral is read as the number that it writes. -/
theorem ofText?_text : Number.ofText? numeral.text = some numeral.value := by
  have decimal := numeral.ofText?_decimal
  obtain ⟨c, rest, written, starts⟩ := numeral.text_cases
  rw [written] at decimal ⊢
  rw [Number.ofText?_of_starts starts rest, decimal, Option.map_some, value]

end Numeral

/-! ## The token of a numeral -/

namespace NumeralScan

/-- Nothing of a number has been read. -/
def empty : NumeralScan := ⟨[], false, false, false⟩

theorem step?_empty {c : Char} (starting : starts c = true) : empty.step? c = some (start c) := by
  simp only [starts, Bool.or_eq_true, beq_iff_eq] at starting
  rcases starting with digit | rfl
  · have point : (c == '.') = false := by
      apply beq_eq_false_iff_ne.mpr
      rintro rfl
      exact absurd digit (by decide)
    simp only [step?, digit, if_true, start, point, empty]
  · rfl

theorem read_of_step? {scan next : NumeralScan} {c : Char} (belongs : scan.step? c = some next) :
    next.read = c :: scan.read := by
  rw [step?] at belongs
  repeat' split at belongs
  all_goals cases belongs
  all_goals rfl

theorem foldlM_digits (scan : NumeralScan) {digits : Text}
    (all : digits.all Text.isDigit = true) :
    digits.foldlM step? scan =
      some { scan with
        read := digits.reverse ++ scan.read
        atMark := scan.atMark && digits.isEmpty } := by
  induction digits generalizing scan with
  | nil => simp
  | cons d digits inductionHypothesis =>
      rw [List.all_cons, Bool.and_eq_true] at all
      have step : scan.step? d = some { scan with read := d :: scan.read, atMark := false } := by
        simp only [step?, all.1, if_true]
      rw [List.foldlM_cons, step]
      change digits.foldlM step? { scan with read := d :: scan.read, atMark := false } = _
      rw [inductionHypothesis _ all.2]
      simp

theorem foldlM_exponent (exponent : Exponent) (read : Text) (point : Bool) :
    exponent.text.foldlM step? ⟨read, point, false, false⟩ =
      some ⟨exponent.text.reverse ++ read, point, true, false⟩ := by
  have digits := exponent.digits.all
  have nonempty : exponent.digits.text.isEmpty = false := by
    simpa using exponent.digits.nonempty
  have mark : step? ⟨read, point, false, false⟩ exponent.mark =
      some ⟨exponent.mark :: read, point, true, true⟩ := by
    rcases exponent.isMark with mark | mark <;> rw [mark] <;> cases point <;> rfl
  rw [Exponent.text, List.foldlM_cons, mark]
  change (exponent.sign.toList.map Sign.char ++ exponent.digits.text).foldlM step?
    ⟨exponent.mark :: read, point, true, true⟩ = _
  rw [List.foldlM_append]
  cases exponent.sign with
  | none =>
      change exponent.digits.text.foldlM step? ⟨exponent.mark :: read, point, true, true⟩ = _
      rw [foldlM_digits _ digits, nonempty]
      simp
  | some sign =>
      have signed : step? ⟨exponent.mark :: read, point, true, true⟩ sign.char =
          some ⟨sign.char :: exponent.mark :: read, point, true, false⟩ := by
        cases sign <;> cases point <;> rfl
      change ((step? ⟨exponent.mark :: read, point, true, true⟩ sign.char >>= pure) >>= fun scan =>
        exponent.digits.text.foldlM step? scan) = _
      rw [signed]
      change exponent.digits.text.foldlM step?
        ⟨sign.char :: exponent.mark :: read, point, true, false⟩ = _
      rw [foldlM_digits _ digits]
      simp

theorem foldlM_point (numeral : Numeral) (read : Text) :
    numeral.pointText.foldlM step? ⟨read, false, false, false⟩ =
      some ⟨numeral.pointText.reverse ++ read, numeral.fraction.isSome, false, false⟩ := by
  have all := numeral.fractionDigits
  rw [Numeral.pointText]
  cases written : numeral.fraction with
  | none => rfl
  | some digits =>
      rw [written, Option.getD_some] at all
      change digits.foldlM step? ⟨'.' :: read, true, false, false⟩ = _
      rw [foldlM_digits _ all]
      simp

/-- All characters of a numeral belong to one number. -/
theorem foldlM_numeral (numeral : Numeral) :
    numeral.text.foldlM step? empty =
      some ⟨numeral.text.reverse, numeral.fraction.isSome, numeral.exponent.isSome, false⟩ := by
  have whole : numeral.whole.foldlM step? empty =
      some ⟨numeral.whole.reverse, false, false, false⟩ := by
    rw [foldlM_digits _ numeral.wholeDigits]
    simp [empty]
  have exponent (read : Text) (point : Bool) :
      numeral.exponentText.foldlM step? ⟨read, point, false, false⟩ =
        some ⟨numeral.exponentText.reverse ++ read, point, numeral.exponent.isSome, false⟩ := by
    rw [Numeral.exponentText]
    cases numeral.exponent with
    | none => rfl
    | some exponent => exact foldlM_exponent exponent read point
  rw [Numeral.text, List.foldlM_append, whole]
  change (numeral.pointText ++ numeral.exponentText).foldlM step?
    ⟨numeral.whole.reverse, false, false, false⟩ = _
  rw [List.foldlM_append, foldlM_point]
  change numeral.exponentText.foldlM step? _ = _
  rw [exponent]
  simp

/-- What may stand behind an operand does not belong to a number whose exponent
mark is not its last character. -/
theorem step?_delimiter {scan : NumeralScan} (settled : scan.atMark = false) {c : Char}
    (delimiter : c ∈ Reader.delimiters) : scan.step? c = none := by
  simp only [Reader.delimiters, List.mem_cons, List.not_mem_nil, or_false] at delimiter
  rcases delimiter with rfl | rfl | rfl | rfl | rfl | rfl | rfl <;>
    simp [step?, settled] <;> decide

end NumeralScan

/-! ## Texts that are read as numbers -/

theorem Digits.exists_of_digits? {text : Text} {value : Nat}
    (read : Decimal.digits? text = some value) : ∃ digits : Digits, digits.text = text := by
  rw [Decimal.digits?] at read
  split at read
  · cases read
  · next proper =>
      simp only [Bool.or_eq_true, List.isEmpty_iff, Bool.not_eq_true', not_or,
        Bool.not_eq_false] at proper
      exact ⟨⟨text, proper.1, proper.2⟩, rfl⟩

theorem Exponent.exists_of_exponent? {text : Text} {value : Int}
    (read : Decimal.exponent? text = some value) :
    text = [] ∨ ∃ exponent : Exponent, exponent.text = text := by
  cases text with
  | nil => exact .inl rfl
  | cons mark rest =>
      have digitsOf {change : Int → Int} {text : Text}
          (mapped : (Option.map change do
            let n ← Decimal.digits? text
            pure (n : Int)) = some value) : ∃ digits : Digits, digits.text = text := by
        cases digits : Decimal.digits? text with
        | none =>
            rw [digits] at mapped
            cases mapped
        | some n => exact Digits.exists_of_digits? digits
      unfold Decimal.exponent? at read
      dsimp only at read
      by_cases isMark : (mark = 'e' || mark = 'E') = true
      · rw [if_pos isMark] at read
        simp only [Bool.or_eq_true, decide_eq_true_eq] at isMark
        apply Or.inr
        split at read
        · obtain ⟨digits, rfl⟩ := digitsOf read
          exact ⟨⟨mark, some .minus, digits, isMark⟩, rfl⟩
        · obtain ⟨digits, rfl⟩ := digitsOf read
          exact ⟨⟨mark, some .plus, digits, isMark⟩, rfl⟩
        · obtain ⟨digits, rfl⟩ := digitsOf read
          exact ⟨⟨mark, none, digits, isMark⟩, rfl⟩
      · rw [if_neg isMark] at read
        cases read

theorem Numeral.fraction_cases (text : Text) :
    (Decimal.fraction text = ([], text)) ∨
      ∃ digits rest, text = '.' :: (digits ++ rest) ∧ digits.all Text.isDigit = true ∧
        Decimal.fraction text = (digits, rest) := by
  unfold Decimal.fraction
  split
  · next behind =>
      refine .inr ⟨behind.takeWhile Text.isDigit, behind.dropWhile Text.isDigit, ?_,
        List.all_takeWhile, rfl⟩
      rw [List.takeWhile_append_dropWhile]
  · exact .inl rfl

/-- A text that is read as a decimal is a numeral. -/
theorem Numeral.exists_of_decimal {text : Text} {decimal : Decimal}
    (read : Decimal.ofText? text = some decimal) : ∃ numeral : Numeral, numeral.text = text := by
  have wholeDigits : (text.takeWhile Text.isDigit).all Text.isDigit = true := List.all_takeWhile
  have splitWhole : text.takeWhile Text.isDigit ++ text.dropWhile Text.isDigit = text :=
    List.takeWhile_append_dropWhile
  unfold Decimal.ofText? at read
  generalize text.takeWhile Text.isDigit = whole at wholeDigits splitWhole read
  generalize text.dropWhile Text.isDigit = behind at splitWhole read
  have exponentOf {rest : Text} {change : Int → Decimal}
      (mapped : (Decimal.exponent? rest).map change = some decimal) :
      ∃ exponent : Option Exponent, ((exponent.map Exponent.text).getD []) = rest := by
    obtain ⟨value, taken, -⟩ := Option.map_eq_some_iff.mp mapped
    rcases Exponent.exists_of_exponent? taken with rfl | ⟨exponent, rfl⟩
    · exact ⟨none, rfl⟩
    · exact ⟨some exponent, rfl⟩
  rcases fraction_cases behind with pointless | ⟨digits, rest, rfl, all, pointed⟩
  · rw [pointless] at read
    dsimp only at read
    split at read
    · cases read
    · next nonempty =>
        obtain ⟨exponent, rfl⟩ := exponentOf read
        refine ⟨⟨whole, none, exponent, wholeDigits, rfl, by simpa using nonempty⟩, ?_⟩
        rw [← splitWhole]
        cases exponent <;> rfl
  · rw [pointed] at read
    dsimp only at read
    split at read
    · cases read
    · next nonempty =>
        obtain ⟨exponent, rfl⟩ := exponentOf read
        refine ⟨⟨whole, some digits, exponent, wholeDigits, all, by simpa using nonempty⟩, ?_⟩
        rw [← splitWhole]
        cases exponent <;> rfl

/-- The characters of a number that has been read make up a numeral. -/
theorem Numeral.exists_of_ofText? {c : Char} {rest : Text} {value : Number}
    (starts : NumeralScan.starts c = true) (read : Number.ofText? (c :: rest) = some value) :
    ∃ numeral : Numeral, numeral.text = c :: rest := by
  rw [Number.ofText?_of_starts starts] at read
  obtain ⟨decimal, taken, -⟩ := Option.map_eq_some_iff.mp read
  exact exists_of_decimal taken

end Spreadsheet
