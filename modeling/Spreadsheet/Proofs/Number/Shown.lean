import Spreadsheet.Proofs.Number.Rational
import Spreadsheet.Proofs.Number.Written

/-!
# The number that is shown

A number close to its rounded value is shown without a fraction, and whether it is close is
found out with rounded operations, from a rounded value that is not always the nearest one.
Still the text shown is that of the nearest count of millionths, in either case.  A number
that is close to some whole number has that number of millions for its count, and where the
rounded value is wrong the number is not close to it.
-/

namespace Spreadsheet.Number

variable {quanta : Nat}

/-- How many millionths a magnitude has, rounded. -/
def millionths (quanta : Nat) : Nat :=
  roundQuotient (quanta * tenTo shownPlaces) unit

/-! ## Being close to a whole number -/

/-- The tolerance in quanta. -/
def tolerance : Nat := nearest unit (tenTo 9)

theorem exists_wholeTolerance_eq :
    ∃ representable, wholeTolerance = .finite false tolerance representable :=
  exists_tenth_eq 9

theorem spacing_dvd_tolerance : spacing tolerance ∣ tolerance :=
  spacing_dvd_nearest _ _

/-- The tolerance is far less than half a millionth. -/
theorem tolerance_small : 2 * (tolerance * tenTo shownPlaces) < unit := by
  decide +kernel

/-- How far two magnitudes are apart. -/
def distance (a b : Nat) : Nat := (a - b) + (b - a)

theorem less_false {a b : Nat} (first : Representable a) (second : Representable b) :
    less (.finite false a first) (.finite false b second) = decide (a < b) := by
  simp [less, signed]

/-- The magnitude of the rounded difference of two numbers of the same sign. -/
theorem exists_abs_sub_eq (negative : Bool) {a b : Nat} (first : Representable a)
    (second : Representable b) :
    ∃ representable, (finite negative a first - finite negative b second).abs =
      .finite false (nearest (distance a b) 1) representable := by
  have fits : nearest (distance a b) 1 < beyondFinite := by
    rcases Nat.le_total a b with le | le
    · apply Nat.lt_of_le_of_lt _ second.1
      apply nearest_le_of_le_mul Nat.one_pos second.2
      rw [distance]
      omega
    · apply Nat.lt_of_le_of_lt _ first.1
      apply nearest_le_of_le_mul Nat.one_pos first.2
      rw [distance]
      omega
  have total : (signed negative a + signed (!negative) b).natAbs = distance a b := by
    cases negative with
    | true =>
        change (-(a : Int) + b).natAbs = (a - b) + (b - a)
        omega
    | false =>
        change ((a : Int) + -b).natAbs = (a - b) + (b - a)
        omega
  refine ⟨representable_nearest fits, ?_⟩
  change (add (.finite negative a first) (.finite (!negative) b second)).abs = _
  simp only [add]
  split
  · next none =>
      rw [none] at total
      simp only [← total]
      rfl
  · rw [total, ofRatio]
    simp only [dif_pos fits]
    rfl

/-- Whether a number counts as close to its rounded value. -/
def isClose (quanta : Nat) : Bool :=
  nearest (distance quanta (plusHalf quanta / unit * unit)) 1 < tolerance

/-- What is taken for close to its rounded value has as many millions of millionths, -/
theorem millionths_of_isClose (close : isClose quanta = true) :
    millionths quanta = plusHalf quanta / unit * tenTo shownPlaces := by
  have near : distance quanta (plusHalf quanta / unit * unit) < tolerance := by
    apply Nat.lt_of_not_le
    intro far
    have reached : tolerance ≤ nearest (distance quanta (plusHalf quanta / unit * unit)) 1 := by
      apply le_nearest_of_mul_le Nat.one_pos spacing_dvd_tolerance
      rwa [Nat.mul_one]
    exact absurd (of_decide_eq_true close) (Nat.not_lt_of_le reached)
  have small := tolerance_small
  have scaled {a b : Nat} (between : a < b + tolerance) :
      a * tenTo shownPlaces < b * tenTo shownPlaces + tolerance * tenTo shownPlaces := by
    rw [← Nat.add_mul]
    exact Nat.mul_lt_mul_of_pos_right between (Nat.pow_pos (by decide))
  rw [distance] at near
  have above := scaled (show quanta < plusHalf quanta / unit * unit + tolerance by omega)
  have below := scaled (show plusHalf quanta / unit * unit < quanta + tolerance by omega)
  apply roundQuotient_eq_of_lt
  · rw [Nat.mul_right_comm]
    omega
  · rw [Nat.mul_right_comm]
    omega

/-- and what is taken for close to zero is what lies within the tolerance. -/
theorem isClose_zero_iff (representable : Representable quanta) :
    isClose quanta = true ∧ plusHalf quanta / unit = 0 ↔ quanta < tolerance := by
  have bounds : tolerance ≤ beforeHalf ∧ beforeHalf < halfUnit := by decide +kernel
  have same : distance quanta 0 = quanta := by
    rw [distance]
    omega
  have closeTo (zero : plusHalf quanta / unit = 0) :
      isClose quanta = decide (quanta < tolerance) := by
    rw [isClose, zero, Nat.zero_mul, same, nearest_one representable.2]
  constructor
  · rintro ⟨close, zero⟩
    exact of_decide_eq_true (closeTo zero ▸ close)
  · intro small
    have zero : plusHalf quanta / unit = 0 :=
      Nat.div_eq_of_lt (plusHalf_lt_unit representable.2 (by omega) (by omega))
    exact ⟨closeTo zero ▸ decide_eq_true small, zero⟩

/-! ## The text -/

theorem ofInt_signed (negative : Bool) (n : Nat) :
    Text.ofInt (signed negative n) = Text.withSign (negative && !decide (n = 0)) (Text.ofNat n) := by
  cases negative with
  | false => rfl
  | true => cases n <;> rfl

/-- The two ways in which a number is shown. -/
theorem numeral_eq_bind (x : Number) :
    x.numeral = (wholePart (x.abs + half)).bind fun whole =>
      if less (x - (ofNat whole).withSign x.isNegative).abs wholeTolerance = true then
        .ok (Text.ofInt (signed x.isNegative whole))
      else .ok (Text.withSign x.isNegative (trimFraction (fixedText x.quanta))) :=
  rfl

theorem numeral_eq_if (negative : Bool) (representable : Representable quanta) :
    (finite negative quanta representable).numeral =
      if isClose quanta = true then .ok (Text.ofInt (signed negative (plusHalf quanta / unit)))
      else .ok (Text.withSign negative (trimFraction (fixedText quanta))) := by
  obtain ⟨_, sum⟩ := exists_abs_add_half_eq negative representable
  obtain ⟨whole, isWhole⟩ := exists_ofNat_plusHalf_eq representable
  obtain ⟨_, apart⟩ := exists_abs_sub_eq negative representable whole
  obtain ⟨_, isTolerance⟩ := exists_wholeTolerance_eq
  have rounded : (ofNat (plusHalf quanta / unit)).withSign negative =
      .finite negative (plusHalf quanta / unit * unit) whole := by
    rw [isWhole, withSign]
  rw [numeral_eq_bind, sum, wholePart, Except.bind, isNegative, rounded, apart, isTolerance,
    less_false, isClose, Number.quanta]

/-- Whether there is a minus sign: not for what is positive or within the tolerance of zero. -/
def hasMinus (negative : Bool) (quanta : Nat) : Bool :=
  negative && !decide (quanta < tolerance)

/-- The count of millionths as a text. -/
def millionthsText (negative : Bool) (quanta : Nat) : Text :=
  Text.withSign (hasMinus negative quanta)
    (Numeral.ofParts shownPlaces (millionths quanta)).text

/-- A number is shown as its count of millionths. -/
theorem numeral_eq (negative : Bool) (representable : Representable quanta) :
    (finite negative quanta representable).numeral = .ok (millionthsText negative quanta) := by
  have closeToZero := isClose_zero_iff representable
  rw [numeral_eq_if, millionthsText, hasMinus]
  by_cases close : isClose quanta = true
  · have sign : decide (plusHalf quanta / unit = 0) = decide (quanta < tolerance) :=
      decide_eq_decide.mpr ⟨fun zero => closeToZero.mp ⟨close, zero⟩,
        fun small => (closeToZero.mpr small).2⟩
    rw [if_pos close, ofInt_signed, sign, millionths_of_isClose close, Numeral.text_ofParts_mul]
  · have sign : decide (quanta < tolerance) = false :=
      decide_eq_false fun small => close (closeToZero.mpr small).1
    rw [if_neg close, sign, Bool.not_false, Bool.and_true]
    exact congrArg (fun t => Except.ok (Text.withSign negative t)) (Numeral.trimFraction_eq _ _)

/-! ## Its value -/

/-- There are no millionths within the tolerance of zero. -/
theorem millionths_of_lt (representable : Representable quanta) (small : quanta < tolerance) :
    millionths quanta = 0 := by
  obtain ⟨close, zero⟩ := (isClose_zero_iff representable).mpr small
  rw [millionths_of_isClose close, zero, Nat.zero_mul]

/-- The text shown writes the count of millionths, -/
theorem toRat?_millionthsText (negative : Bool) (representable : Representable quanta) :
    (millionthsText negative quanta).toRat? =
      some ((signed negative (millionths quanta) : ℚ) / 10 ^ 6) := by
  have value : (Numeral.ofParts shownPlaces (millionths quanta)).decimal.toRat =
      (millionths quanta : ℚ) / 10 ^ 6 :=
    Numeral.toRat_ofParts (by decide) (millionths quanta)
  rw [millionthsText, hasMinus, Numeral.toRat?_withSign, value, cast_signed]
  by_cases small : quanta < tolerance
  · rw [millionths_of_lt representable small]
    simp
  · cases negative with
    | false => rfl
    | true =>
        rw [decide_eq_false small, if_pos rfl, neg_div]
        rfl

/-- which is the nearest one, the even one of two. -/
theorem nearestEven_millionths (negative : Bool) (representable : Representable quanta) :
    NearestEven ((finite negative quanta representable).toRat * 10 ^ 6)
      (signed negative (millionths quanta)) := by
  have scaled : (finite negative quanta representable).toRat * 10 ^ 6 =
      if negative then -(((quanta * tenTo shownPlaces : ℕ) : ℚ) / unit)
      else ((quanta * tenTo shownPlaces : ℕ) : ℚ) / unit := by
    rw [toRat_finite, Nat.cast_mul, cast_tenTo, shownPlaces]
    split
    · ring
    · ring
  rw [scaled]
  exact (nearestEven_roundQuotient unit_pos).signed negative

/-- A whole number is shown as it is. -/
theorem millionthsText_of_whole {negative : Bool} {representable : Representable quanta} {n : ℤ}
    (whole : (finite negative quanta representable).toRat = n) :
    millionthsText negative quanta = Text.ofInt n := by
  obtain ⟨m, quanta_eq, n_eq⟩ := exists_of_whole whole
  have count : millionths quanta = m * tenTo shownPlaces := by
    have positive := unit_pos
    apply roundQuotient_eq_of_lt
    · rw [quanta_eq, Nat.mul_right_comm]
      omega
    · rw [quanta_eq, Nat.mul_right_comm]
      omega
  have sign : decide (quanta < tolerance) = decide (m = 0) := by
    have bounds : 0 < tolerance ∧ tolerance < unit := by decide +kernel
    rw [decide_eq_decide, quanta_eq]
    constructor
    · intro small
      by_contra positive
      have several : unit ≤ m * unit := Nat.le_mul_of_pos_left unit (Nat.pos_of_ne_zero positive)
      omega
    · intro zero
      rw [zero, Nat.zero_mul]
      exact bounds.1
  rw [millionthsText, hasMinus, count, Numeral.text_ofParts_mul, sign, n_eq, ofInt_signed]

theorem exists_shown {x : Number} (finite : x.isFinite = true) :
    ∃ shown, ∃ count : ℤ, x.numeral = .ok shown ∧ shown.toRat? = some ((count : ℚ) / 10 ^ 6) ∧
      NearestEven (x.toRat * 10 ^ 6) count ∧ ∀ n : ℤ, x.toRat = n → shown = Text.ofInt n := by
  cases x with
  | finite negative quanta representable =>
      exact ⟨_, _, numeral_eq negative representable, toRat?_millionthsText negative representable,
        nearestEven_millionths negative representable, fun n => millionthsText_of_whole⟩
  | infinite negative => cases finite
  | nan => cases finite

/-- Every finite number is shown as the multiple of `10 ^ (-6)` that is nearest to it, and of two
as the even one.  So what is shown is never more than half a millionth away, whole numbers are
shown as they are, and of two numbers the larger one is not shown as the smaller. -/
theorem numeral_nearest {x : Number} (finite : x.isFinite = true) :
    ∃ shown, ∃ count : ℤ, x.numeral = .ok shown ∧ shown.toRat? = some ((count : ℚ) / 10 ^ 6) ∧
      NearestEven (x.toRat * 10 ^ 6) count ∧
      |(count : ℚ) / 10 ^ 6 - x.toRat| ≤ 5 / 10 ^ 7 ∧
      (∀ n : ℤ, x.toRat = n → shown = Text.ofInt n) ∧
      ∀ y : Number, y.isFinite = true → x.toRat ≤ y.toRat →
        ∃ shown', ∃ count' : ℤ, y.numeral = .ok shown' ∧
          shown'.toRat? = some ((count' : ℚ) / 10 ^ 6) ∧
          (count : ℚ) / 10 ^ 6 ≤ (count' : ℚ) / 10 ^ 6 := by
  obtain ⟨shown, count, isShown, value, nearest, whole⟩ := exists_shown finite
  refine ⟨shown, count, isShown, value, nearest, ?_, whole, fun y finite' le => ?_⟩
  · obtain ⟨low, high⟩ := abs_le.mp (isNearest_iff.mp nearest).1
    rw [abs_le]
    constructor
    · linarith
    · linarith
  · obtain ⟨shown', count', isShown', value', nearest', -⟩ := exists_shown finite'
    refine ⟨shown', count', isShown', value', ?_⟩
    have order : count ≤ count' :=
      nearest.mono nearest' (mul_le_mul_of_nonneg_right le (by norm_num))
    have order' : (count : ℚ) ≤ count' := by exact_mod_cast order
    linarith

/-- The last number below one half, whose rounded value is one, is not shown as one. -/
theorem numeral_nearest_beforeHalf :
    let x : Number := .finite false beforeHalf representable_beforeHalf
    x.numeral = .ok "0.5".toList ∧ ∃ count : ℤ,
      NearestEven (x.toRat * 10 ^ 6) count ∧ |(count : ℚ) / 10 ^ 6 - x.toRat| ≤ 5 / 10 ^ 7 := by
  intro x
  obtain ⟨shown, count, isShown, -, nearest, near, -⟩ := numeral_nearest (x := x) rfl
  exact ⟨by decide +kernel, count, nearest, near⟩

/-! ## Its form -/

/-- The number is shown as a negative zero: it is negative, at most half a millionth away from
zero, and not within the tolerance. -/
def ShownAsNegativeZero (x : Number) : Prop :=
  x.isNegative = true ∧ less x.abs wholeTolerance = false ∧ |x.toRat| ≤ 5 / 10 ^ 7

/-- The form of the text that a number is shown as.  A minus sign stands before the numerals of
negative numbers and, where the number is shown as a negative zero, before a zero. -/
structure Shows (x : Number) (shown : Text) : Prop where
  canonical : shown.Canonical shownPlaces
  minus : shown.head? = some '-' ↔
    (∃ value < 0, shown.toRat? = some value) ∨ x.ShownAsNegativeZero
  negativeZero : shown = ['-', '0'] ↔ x.ShownAsNegativeZero

/-- There are no millionths in half a millionth. -/
theorem millionths_eq_zero_iff (negative : Bool) (representable : Representable quanta) :
    millionths quanta = 0 ↔ |(finite negative quanta representable).toRat| ≤ 5 / 10 ^ 7 := by
  have positive : (0 : ℚ) < unit := by exact_mod_cast unit_pos
  have same : (2 * (quanta * tenTo shownPlaces) ≤ unit) ↔
      (2 * ((quanta : ℚ) * 10 ^ 6) ≤ unit) := by
    rw [← cast_tenTo 6]
    exact_mod_cast Iff.rfl
  rw [millionths, roundQuotient_eq_zero_iff unit_pos, same, abs_toRat, div_le_iff₀ positive]
  constructor
  · intro small
    linarith
  · intro small
    linarith

theorem shownAsNegativeZero_iff (negative : Bool) (representable : Representable quanta) :
    (finite negative quanta representable).ShownAsNegativeZero ↔
      hasMinus negative quanta = true ∧ millionths quanta = 0 := by
  obtain ⟨toleranceRepresentable, isTolerance⟩ := exists_wholeTolerance_eq
  have less : less (finite negative quanta representable).abs wholeTolerance =
      decide (quanta < tolerance) := by
    rw [isTolerance]
    exact less_false representable toleranceRepresentable
  rw [ShownAsNegativeZero, less, ← millionths_eq_zero_iff negative representable, hasMinus,
    Bool.and_eq_true, Bool.not_eq_true', and_assoc]
  rfl

/-- What has a minus sign is negative or zero. -/
theorem hasMinus_iff (negative : Bool) (representable : Representable quanta) :
    hasMinus negative quanta = true ↔
      (signed negative (millionths quanta) : ℚ) / 10 ^ 6 < 0 ∨
        hasMinus negative quanta = true ∧ millionths quanta = 0 := by
  rw [cast_signed, hasMinus]
  constructor
  · intro minus
    by_cases zero : millionths quanta = 0
    · exact .inr ⟨minus, zero⟩
    · rw [Bool.and_eq_true] at minus
      have positive : (0 : ℚ) < millionths quanta := by exact_mod_cast Nat.pos_of_ne_zero zero
      left
      rw [if_pos minus.1, neg_div]
      exact neg_neg_of_pos (by positivity)
  · rintro (below | ⟨minus, -⟩)
    · have nonnegative : (0 : ℚ) ≤ (millionths quanta : ℚ) / 10 ^ 6 :=
        div_nonneg (Nat.cast_nonneg _) (by norm_num)
      cases negative with
      | false =>
          rw [if_neg Bool.false_ne_true] at below
          exact absurd below (not_lt_of_ge nonnegative)
      | true =>
          rw [Bool.true_and, Bool.not_eq_true', decide_eq_false_iff_not]
          intro small
          rw [millionths_of_lt representable small] at below
          simp at below
    · exact minus

theorem toRat?_negativeZero : Text.toRat? ['-', '0'] = some 0 := by
  have decimal : Decimal.ofText? ['0'] = some ⟨0, 0⟩ := by decide
  rw [Text.toRat?, decimal, Option.map_some, Decimal.toRat, Nat.cast_zero, zero_mul, neg_zero]

theorem millionthsText_eq_negativeZero_iff (negative : Bool)
    (representable : Representable quanta) :
    millionthsText negative quanta = ['-', '0'] ↔
      hasMinus negative quanta = true ∧ millionths quanta = 0 := by
  constructor
  · intro same
    have value := toRat?_millionthsText negative representable
    rw [same, toRat?_negativeZero] at value
    have quotient := (Option.some.inj value).symm
    have whole : (signed negative (millionths quanta) : ℚ) = 0 :=
      (div_eq_zero_iff.mp quotient).resolve_right (by norm_num)
    have abs := congrArg Int.natAbs (Int.cast_eq_zero.mp whole)
    rw [natAbs_signed] at abs
    exact ⟨Numeral.head?_withSign.mp (congrArg List.head? same), abs⟩
  · rintro ⟨minus, zero⟩
    have text := Numeral.text_ofParts_mul shownPlaces 0
    rw [Nat.zero_mul] at text
    rw [millionthsText, minus, zero, text]
    rfl

theorem exists_shows {x : Number} (finite : x.isFinite = true) :
    ∃ shown, x.numeral = .ok shown ∧ Shows x shown := by
  cases x with
  | finite negative quanta representable =>
      refine ⟨_, numeral_eq negative representable, ⟨_, _, rfl, ?_⟩, ?_, ?_⟩
      · exact Numeral.canonical_ofParts (by decide) _
      · have below : (∃ value < 0, (millionthsText negative quanta).toRat? = some value) ↔
            (signed negative (millionths quanta) : ℚ) / 10 ^ 6 < 0 := by
          rw [toRat?_millionthsText negative representable]
          constructor
          · rintro ⟨value, below, same⟩
            exact Option.some.inj same ▸ below
          · intro below
            exact ⟨_, below, rfl⟩
        rw [below, shownAsNegativeZero_iff]
        exact Numeral.head?_withSign.trans (hasMinus_iff negative representable)
      · rw [shownAsNegativeZero_iff, millionthsText_eq_negativeZero_iff negative representable]
  | infinite negative => cases finite
  | nan => cases finite

end Spreadsheet.Number
