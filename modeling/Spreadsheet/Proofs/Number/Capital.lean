import Spreadsheet.Number.Decimal
import Spreadsheet.Proofs.Text.Capital

/-!
# Numbers in capitals

The only letters in a numeral are the mark of its exponent, which may be of either
case, and the words for infinities and NaN are read in any case.  So a text in capitals
writes the number that it writes as it is.
-/

namespace Spreadsheet

namespace Decimal

theorem digits?_capitals (t : Text) : digits? t.capitals = digits? t := by
  simp only [digits?, Text.isEmpty_capitals, Text.all_capitals Text.isDigit_capital]
  split
  · rfl
  · next written =>
      simp only [Bool.or_eq_true, not_or, Bool.not_eq_true', Bool.not_eq_false] at written
      rw [Text.capitals_digits written.2]

/-- The mark of an exponent may be of either case, -/
theorem exponent?_mark (mark : Char) (rest : Text) :
    exponent? (mark :: rest) =
      if mark = 'e' || mark = 'E' then exponent? ('e' :: rest) else none := by
  simp only [exponent?]
  split <;> rfl

theorem exponent?_unsigned {c : Char} (minus : c ≠ '-') (plus : c ≠ '+') (rest : Text) :
    exponent? ('e' :: c :: rest) = (digits? (c :: rest)).map fun n => (n : Int) := by
  simp only [exponent?, decide_true, Bool.true_or, if_true]
  split
  · next same =>
      cases same
      exact absurd rfl minus
  · next same =>
      cases same
      exact absurd rfl plus
  · rfl

/-- and nothing else in it is a letter. -/
theorem exponent?_capitals (t : Text) : exponent? t.capitals = exponent? t := by
  cases t with
  | nil => rfl
  | cons mark rest =>
      have marks : (decide (Text.capital mark = 'e') || decide (Text.capital mark = 'E')) =
          (decide (mark = 'e') || decide (mark = 'E')) :=
        Text.capital_invariant (fun c => c = 'e' || c = 'E') (by decide) mark
      rw [Text.capitals_cons, exponent?_mark, exponent?_mark mark, marks]
      congr 1
      cases rest with
      | nil => rfl
      | cons c digits =>
          by_cases minus : c = '-'
          · subst minus
            simp only [Text.capitals_cons, show Text.capital '-' = '-' by decide, exponent?,
              digits?_capitals]
          by_cases plus : c = '+'
          · subst plus
            simp only [Text.capitals_cons, show Text.capital '+' = '+' by decide, exponent?,
              digits?_capitals]
          have minus' : Text.capital c ≠ '-' := Text.capital_ne (by decide) minus
          have plus' : Text.capital c ≠ '+' := Text.capital_ne (by decide) plus
          rw [Text.capitals_cons, exponent?_unsigned minus' plus', exponent?_unsigned minus plus,
            ← Text.capitals_cons, digits?_capitals]

theorem fraction_capitals (t : Text) :
    fraction t.capitals = ((fraction t).1, Text.capitals (fraction t).2) := by
  have plain {c : Char} (other : c ≠ '.') (rest : Text) :
      fraction (c :: rest) = ([], c :: rest) := by
    rw [fraction]
    rintro _ ⟨⟩
    exact other rfl
  cases t with
  | nil => rfl
  | cons c rest =>
      by_cases point : c = '.'
      · subst point
        simp only [Text.capitals_cons, show Text.capital '.' = '.' by decide, fraction,
          Text.takeWhile_isDigit_capitals, Text.dropWhile_capitals Text.isDigit_capital]
      · have point' : Text.capital c ≠ '.' := Text.capital_ne (by decide) point
        rw [Text.capitals_cons, plain point', plain point, Text.capitals_cons]

theorem ofText?_capitals (t : Text) : ofText? t.capitals = ofText? t := by
  simp only [ofText?, Text.takeWhile_isDigit_capitals,
    Text.dropWhile_capitals Text.isDigit_capital, fraction_capitals, exponent?_capitals]

end Decimal

namespace Number

theorem ofUnsigned?_capitals (negative : Bool) (t : Text) :
    ofUnsigned? negative t.capitals = ofUnsigned? negative t := by
  have word : t.capitals.map Text.small = t.map Text.small := by
    rw [Text.capitals, List.map_map]
    exact List.map_congr_left fun c _ => Text.small_capital c
  simp only [ofUnsigned?, word, Decimal.ofText?_capitals]

theorem ofText?_capitals (t : Text) : ofText? t.capitals = ofText? t := by
  have unsigned {c : Char} (minus : c ≠ '-') (plus : c ≠ '+') (rest : Text) :
      ofText? (c :: rest) = ofUnsigned? false (c :: rest) := by
    rw [ofText?]
    · rintro _ ⟨⟩
      exact minus rfl
    · rintro _ ⟨⟩
      exact plus rfl
  cases t with
  | nil => rfl
  | cons c rest =>
      by_cases minus : c = '-'
      · subst minus
        exact ofUnsigned?_capitals true rest
      by_cases plus : c = '+'
      · subst plus
        exact ofUnsigned?_capitals false rest
      have minus' : Text.capital c ≠ '-' := Text.capital_ne (by decide) minus
      have plus' : Text.capital c ≠ '+' := Text.capital_ne (by decide) plus
      rw [Text.capitals_cons, unsigned minus' plus', unsigned minus plus, ← Text.capitals_cons,
        ofUnsigned?_capitals]

end Number

end Spreadsheet
