import Mathlib.Algebra.Field.Rat
import Mathlib.Algebra.Order.Ring.Rat
import Mathlib.Algebra.GroupWithZero.Basic
import Mathlib.Tactic.NormNum.Basic
import Spreadsheet.ErrorCode
import Spreadsheet.Number.Numeral
import Spreadsheet.Proofs.Address.Canonical
import Spreadsheet.Proofs.Formula.Numeral
import Spreadsheet.Proofs.Number.Exact

/-!
# Numerals with a number of places

A count of parts of a power of ten is written as its whole part and its fraction, without
zeros at the end of the fraction.  Such a numeral has no superfluous digit and writes the
very quotient.
-/

namespace Spreadsheet

open Number (tenTo paddedDigits trimFraction)

/-! ## What a text writes -/

/-- The rational number that a decimal is. -/
def Decimal.toRat (d : Decimal) : ℚ :=
  d.mantissa * 10 ^ d.exponent

namespace Text

/-- A text with a minus sign before it, or none. -/
def withSign (negative : Bool) (t : Text) : Text :=
  if negative then '-' :: t else t

/-- The rational number that a decimal numeral writes, after at most one minus sign. -/
def toRat? : Text → Option ℚ
  | '-' :: rest => (Decimal.ofText? rest).map fun d => -d.toRat
  | t => (Decimal.ofText? t).map Decimal.toRat

end Text

namespace Numeral

/-- A numeral without an exponent and without superfluous digits: no zero before other digits
of the whole part, and none at the end of the fraction. -/
structure Canonical (places : Nat) (numeral : Numeral) : Prop where
  whole : numeral.whole = ['0'] ∨ ∃ d rest, numeral.whole = d :: rest ∧ d ≠ '0'
  fraction : ∀ digits ∈ numeral.fraction,
    1 ≤ digits.length ∧ digits.length ≤ places ∧ digits.getLast? ≠ some '0'
  exponent : numeral.exponent = none

variable {places : Nat}

/-- What a numeral writes under a sign. -/
theorem toRat?_withSign (negative : Bool) (numeral : Numeral) :
    (Text.withSign negative numeral.text).toRat? =
      some (if negative then -numeral.decimal.toRat else numeral.decimal.toRat) := by
  cases negative with
  | true =>
      change (Decimal.ofText? numeral.text).map _ = _
      rw [numeral.ofText?_decimal]
      rfl
  | false =>
      have decimal := numeral.ofText?_decimal
      obtain ⟨c, rest, written, starts⟩ := numeral.text_cases
      change numeral.text.toRat? = _
      rw [written] at decimal ⊢
      rw [Text.toRat?, decimal]
      · rfl
      · rintro _ ⟨⟩
        exact absurd starts (by decide)

/-- No numeral begins with a minus sign, so the one at the front is that of the sign. -/
theorem head?_withSign {negative : Bool} {numeral : Numeral} :
    (Text.withSign negative numeral.text).head? = some '-' ↔ negative = true := by
  obtain ⟨c, rest, written, starts⟩ := numeral.text_cases
  cases negative with
  | true => exact iff_of_true rfl rfl
  | false =>
      refine iff_of_false (fun minus => ?_) Bool.false_ne_true
      change numeral.text.head? = some '-' at minus
      rw [written] at minus
      cases minus
      exact absurd starts (by decide)

end Numeral

/-- A numeral without superfluous digits, perhaps with a minus sign before it. -/
def Text.Canonical (places : Nat) (t : Text) : Prop :=
  ∃ negative, ∃ numeral : Numeral,
    t = withSign negative numeral.text ∧ numeral.Canonical places

/-- No error code begins like a number. -/
theorem Text.Canonical.ne_code {places : Nat} {t : Text} (canonical : t.Canonical places)
    (code : ErrorCode) : t ≠ code.text := by
  obtain ⟨negative, numeral, rfl, -⟩ := canonical
  obtain ⟨c, rest, written, starts⟩ := numeral.text_cases
  have mark : ∃ letters, code.text = '#' :: letters := by
    cases code <;> exact ⟨_, rfl⟩
  obtain ⟨letters, isCode⟩ := mark
  rw [written, isCode]
  cases negative with
  | true => exact fun same => absurd (List.cons.inj same).1 (by decide)
  | false =>
      intro same
      obtain rfl : c = '#' := (List.cons.inj same).1
      exact absurd starts (by decide)

/-! ## Digits -/

namespace Text

theorem digitsValue_append (front back : Text) :
    digitsValue (front ++ back) = digitsValue front * 10 ^ back.length + digitsValue back := by
  have read (t : Text) := foldl_eq_ofDigits 10 (fun d => d.toNat - '0'.toNat) t
  simp only [digitsValue, read, List.map_append, List.reverse_append, Nat.ofDigits_append,
    List.length_reverse, List.length_map]
  rw [Nat.add_comm, Nat.mul_comm]

theorem digitsValue_zeros (count : Nat) : digitsValue (List.replicate count '0') = 0 := by
  rw [digitsValue]
  induction count with
  | zero => rfl
  | succ count inductionHypothesis => exact inductionHypothesis

theorem digitsValue_of_all_zero {zeros : Text} (all : zeros.all (· == '0') = true) :
    digitsValue zeros = 0 := by
  have same : zeros = List.replicate zeros.length '0' := by
    apply List.eq_replicate_of_mem
    intro c member
    exact beq_iff_eq.mp (List.all_eq_true.mp all c member)
  rw [same, digitsValue_zeros]

/-- The digits of a number have no zero before other digits. -/
theorem ofNat_cases (n : Nat) : ofNat n = ['0'] ∨ ∃ d rest, ofNat n = d :: rest ∧ d ≠ '0' := by
  by_cases zero : n = 0
  · rw [zero]
    exact .inl rfl
  · right
    have kept := dropWhile_zero (all_isDigit_ofNat n)
    rw [digitsValue_ofNat, if_neg zero] at kept
    cases written : ofNat n with
    | nil => exact absurd written (ofNat_ne_nil n)
    | cons d rest =>
        refine ⟨d, rest, rfl, ?_⟩
        rintro rfl
        have first := List.head?_dropWhile_not (· == '0') (ofNat n)
        rw [kept, written] at first
        exact Bool.true_eq_false.mp first

end Text

namespace Number

variable {width n : Nat}

theorem all_isDigit_paddedDigits (width n : Nat) :
    (paddedDigits width n).all Text.isDigit = true := by
  rw [paddedDigits, List.all_append, Text.all_isDigit_ofNat, Bool.and_true]
  apply List.all_eq_true.mpr
  intro c member
  rw [List.eq_of_mem_replicate member]
  rfl

theorem digitsValue_paddedDigits (width n : Nat) :
    Text.digitsValue (paddedDigits width n) = n := by
  rw [paddedDigits, Text.digitsValue_append, Text.digitsValue_zeros, Text.digitsValue_ofNat,
    Nat.zero_mul, Nat.zero_add]

theorem length_paddedDigits (positive : 0 < width) (small : n < tenTo width) :
    (paddedDigits width n).length = width := by
  have short := (Text.length_ofNat_le_iff positive).mpr small
  rw [paddedDigits, List.length_append, List.length_replicate]
  omega

end Number

namespace Numeral

variable {places count : Nat}

/-! ## Counts of parts -/

/-- The digits of a fraction without the zeros at its end. -/
def fractionDigitsOf (places count : Nat) : Text :=
  Text.dropRightWhile (· == '0') (paddedDigits places (count % tenTo places))

theorem all_isDigit_fractionDigitsOf (places count : Nat) :
    (fractionDigitsOf places count).all Text.isDigit = true := by
  have all := Number.all_isDigit_paddedDigits places (count % tenTo places)
  obtain ⟨zeros, -, same⟩ :=
    Text.exists_dropRightWhile (· == '0') (paddedDigits places (count % tenTo places))
  rw [same, List.all_append, Bool.and_eq_true] at all
  exact all.1

/-- A count of parts of a power of ten. -/
def ofParts (places count : Nat) : Numeral where
  whole := Text.ofNat (count / tenTo places)
  fraction :=
    if fractionDigitsOf places count = [] then none else some (fractionDigitsOf places count)
  exponent := none
  wholeDigits := Text.all_isDigit_ofNat _
  fractionDigits := by
    split
    · rfl
    · exact all_isDigit_fractionDigitsOf places count
  nonempty := fun nothing => Text.ofNat_ne_nil _ (List.append_eq_nil_iff.mp nothing).1

/-- The digits behind the point, which may be none. -/
theorem fraction_ofParts (places count : Nat) :
    (ofParts places count).fraction.getD [] = fractionDigitsOf places count := by
  simp only [ofParts]
  split
  · next nothing => exact nothing.symm
  · rfl

/-- What is dropped from the fraction, and what is left. -/
theorem exists_zeros (positive : 0 < places) (count : Nat) :
    ∃ zeros : Nat, (fractionDigitsOf places count).length + zeros = places ∧
      Text.digitsValue (fractionDigitsOf places count) * 10 ^ zeros = count % tenTo places := by
  have small : count % tenTo places < tenTo places := Nat.mod_lt _ (Nat.pow_pos (by decide))
  obtain ⟨zeros, all, same⟩ :=
    Text.exists_dropRightWhile (· == '0') (paddedDigits places (count % tenTo places))
  have length := Number.length_paddedDigits positive small
  have value := Number.digitsValue_paddedDigits places (count % tenTo places)
  rw [same, List.length_append] at length
  rw [same, Text.digitsValue_append, Text.digitsValue_of_all_zero all, Nat.add_zero] at value
  exact ⟨zeros.length, length, value⟩

/-- Written as a numeral, a count of parts has no superfluous digit, -/
theorem canonical_ofParts (positive : 0 < places) (count : Nat) :
    (ofParts places count).Canonical places where
  whole := Text.ofNat_cases _
  exponent := rfl
  fraction := by
    obtain ⟨zeros, length, -⟩ := exists_zeros positive count
    intro digits member
    simp only [ofParts] at member
    split at member
    · cases member
    · next some =>
        cases member
        refine ⟨List.length_pos_of_ne_nil some, by omega, fun last => ?_⟩
        exact absurd (Text.getLast?_dropRightWhile (Option.mem_def.mpr last)) (by decide)

/-- and its value is the quotient. -/
theorem toRat_ofParts (positive : 0 < places) (count : Nat) :
    (ofParts places count).decimal.toRat = count / 10 ^ places := by
  obtain ⟨zeros, length, value⟩ := exists_zeros positive count
  have mantissa : (ofParts places count).decimal.mantissa * 10 ^ zeros = count := by
    change Text.digitsValue (Text.ofNat (count / tenTo places) ++
      (ofParts places count).fraction.getD []) * 10 ^ zeros = count
    rw [fraction_ofParts, Text.digitsValue_append, Text.digitsValue_ofNat, Nat.add_mul, value,
      Nat.mul_assoc, ← Nat.pow_add, length]
    exact Nat.div_add_mod' count (tenTo places)
  have exponent : (ofParts places count).decimal.exponent = (zeros : Int) - places := by
    change (0 : Int) - ((ofParts places count).fraction.getD []).length = _
    rw [fraction_ofParts]
    omega
  rw [Decimal.toRat, exponent, zpow_sub₀ (by norm_num), zpow_natCast, zpow_natCast, ← mul_div_assoc]
  congr 1
  exact_mod_cast mantissa

/-- The whole part, and the fraction behind a point if there is any. -/
theorem text_ofParts (places count : Nat) :
    (ofParts places count).text =
      Text.ofNat (count / tenTo places) ++
        if fractionDigitsOf places count = [] then []
        else '.' :: fractionDigitsOf places count := by
  simp only [text, pointText, exponentText, ofParts, List.append_nil]
  by_cases nothing : fractionDigitsOf places count = []
  · rw [if_pos nothing, if_pos nothing]
  · rw [if_neg nothing, if_neg nothing]

theorem text_ofParts_mul (places n : Nat) :
    (ofParts places (n * tenTo places)).text = Text.ofNat n := by
  have base : 0 < tenTo places := Nat.pow_pos (by decide)
  have nothing : fractionDigitsOf places (n * tenTo places) = [] := by
    have all : (paddedDigits places 0).all (· == '0') = true := by
      apply List.all_eq_true.mpr
      intro c member
      rcases List.mem_append.mp member with filled | digit
      · exact beq_iff_eq.mpr (List.eq_of_mem_replicate filled)
      · exact beq_iff_eq.mpr (List.mem_singleton.mp digit)
    rw [fractionDigitsOf, Nat.mul_mod_left]
    exact Text.dropRightWhile_append all []
  rw [text_ofParts, nothing, if_pos rfl, List.append_nil, Nat.mul_div_cancel n base]

/-- Dropping the zeros at the end of a fixed number of places, and then a bare point. -/
theorem trimFraction_eq (places count : Nat) :
    trimFraction (Text.ofNat (count / tenTo places) ++
        ['.'] ++ paddedDigits places (count % tenTo places)) =
      (ofParts places count).text := by
  have zeros : Text.dropRightWhile (· == '0') (Text.ofNat (count / tenTo places) ++
      ['.'] ++ paddedDigits places (count % tenTo places)) =
        Text.ofNat (count / tenTo places) ++ '.' :: fractionDigitsOf places count := by
    rw [List.append_assoc]
    exact Text.dropRightWhile_append_cons (by decide) _ _
  have digit {t : Text} (all : t.all Text.isDigit = true) :
      ∀ c ∈ t.getLast?, (c == '.') = false := by
    intro c last
    have belongs := List.all_eq_true.mp all c (List.mem_of_getLast? last)
    apply beq_eq_false_iff_ne.mpr
    rintro rfl
    exact absurd belongs (by decide)
  rw [trimFraction, zeros, text_ofParts]
  split
  · next nothing =>
      rw [nothing, Text.dropRightWhile_append (by decide),
        Text.dropRightWhile_eq_self (digit (Text.all_isDigit_ofNat _)), List.append_nil]
  · next some =>
      apply Text.dropRightWhile_eq_self
      intro c last
      apply digit (all_isDigit_fractionDigitsOf places count)
      rwa [List.getLast?_append_of_ne_nil _ (List.cons_ne_nil _ _),
        List.getLast?_cons_of_ne_nil some] at last

end Numeral

end Spreadsheet
