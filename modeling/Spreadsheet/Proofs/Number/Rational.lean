import Mathlib.Algebra.Order.Group.Unbundled.Int
import Mathlib.Algebra.Order.Field.Rat
import Mathlib.Algebra.Order.Field.Basic
import Mathlib.Algebra.Ring.Int.Parity
import Mathlib.Data.Int.Cast.Lemmas
import Mathlib.Tactic.FieldSimp
import Mathlib.Tactic.Linarith
import Spreadsheet.Proofs.Number.Half

/-!
# Numbers as rational numbers

A finite number is a rational number, and rounding it to whole numbers is judged by the rational
number that it is.  No whole number is nearer than the one that it is rounded to, and a rule says
which one to take of two that are equally near.
-/

namespace Spreadsheet.Number

/-- The rational number that a finite number is. -/
def toRat : Number → ℚ
  | .finite negative quanta _ => signed negative quanta / unit
  | _ => 0

/-! ## Nearest whole numbers -/

/-- No whole number is nearer to `a`, and if another one is equally near, this one is
preferred. -/
structure IsNearest (preferred : ℤ → Prop) (a : ℚ) (n : ℤ) : Prop where
  nearest : ∀ m : ℤ, |a - n| ≤ |a - m|
  tie : ∀ m : ℤ, m ≠ n → |a - m| = |a - n| → preferred n

/-- The nearest whole number, and the even one of two. -/
def NearestEven (a : ℚ) (n : ℤ) : Prop :=
  IsNearest Even a n

/-- The nearest whole number, and the one farther from zero of two. -/
def NearestAway (a : ℚ) (n : ℤ) : Prop :=
  IsNearest (fun n => |a| < |(n : ℚ)|) a n

variable {preferred : ℤ → Prop} {a b : ℚ} {m n : ℤ}

/-- A whole number is nearest if it is no more than one half away. -/
theorem isNearest_iff :
    IsNearest preferred a n ↔ |a - n| ≤ 1 / 2 ∧ (|a - n| = 1 / 2 → preferred n) := by
  constructor
  · intro ⟨nearest, tie⟩
    have above := nearest (n + 1)
    have below := nearest (n - 1)
    push_cast at above below
    constructor
    · by_contra far
      rcases lt_abs.mp (not_le.mp far) with high | low
      · have closer : |a - (n + 1)| < a - n := abs_lt.mpr ⟨by linarith, by linarith⟩
        linarith [le_abs_self (a - n)]
      · have closer : |a - (n - 1)| < -(a - n) := abs_lt.mpr ⟨by linarith, by linarith⟩
        linarith [neg_le_abs (a - n)]
    · intro half
      rcases (abs_eq (by norm_num)).mp half with high | low
      · refine tie (n + 1) (by omega) ?_
        rw [half, Int.cast_add, Int.cast_one, abs_eq (by norm_num)]
        exact .inr (by linarith)
      · refine tie (n - 1) (by omega) ?_
        rw [half, Int.cast_sub, Int.cast_one, abs_eq (by norm_num)]
        exact .inl (by linarith)
  · rintro ⟨near, tie⟩
    have apart {m : ℤ} (other : m ≠ n) : 1 ≤ |a - m| + |a - n| := by
      have distance : (1 : ℚ) ≤ |(n : ℚ) - m| := by
        exact_mod_cast Int.one_le_abs (sub_ne_zero.mpr other.symm)
      calc
        (1 : ℚ) ≤ |(n : ℚ) - m| := distance
        _ = |(a - m) - (a - n)| := by rw [sub_sub_sub_cancel_left]
        _ ≤ |a - m| + |a - n| := abs_sub _ _
    constructor
    · intro m
      by_cases same : m = n
      · rw [same]
      · linarith [apart same]
    · intro m other equal
      exact tie (by linarith [apart other])

theorem isNearest_self (n : ℤ) : IsNearest preferred n n := by
  rw [isNearest_iff, sub_self, abs_zero]
  exact ⟨by norm_num, fun half => absurd half (by norm_num)⟩

/-- Rounding to the nearest whole number, and to the even one of two, keeps the order. -/
theorem NearestEven.mono (first : NearestEven a m) (second : NearestEven b n) (le : a ≤ b) :
    m ≤ n := by
  obtain ⟨near, tie⟩ := isNearest_iff.mp first
  obtain ⟨near', tie'⟩ := isNearest_iff.mp second
  obtain ⟨low, high⟩ := abs_le.mp near
  obtain ⟨low', high'⟩ := abs_le.mp near'
  by_contra greater
  have next : (n : ℚ) + 1 ≤ m := by exact_mod_cast Int.add_one_le_of_lt (not_le.mp greater)
  -- Only one number lies so near to both, and only halfway between them.
  have same : m = n + 1 := by
    have most : (m : ℚ) ≤ n + 1 := by linarith
    exact le_antisymm (by exact_mod_cast most) (by exact_mod_cast next)
  rw [same] at tie low high
  push_cast at tie low high
  have even := tie ((abs_eq (by norm_num)).mpr (.inr (by linarith)))
  have even' := tie' ((abs_eq (by norm_num)).mpr (.inl (by linarith)))
  rw [Int.even_iff] at even even'
  omega

/-- Two whole numbers that are next to one another are not both farther from zero than what lies
halfway between them. -/
theorem NearestAway.unique (first : NearestAway a m) (second : NearestAway a n) : m = n := by
  wlog less : m < n generalizing m n
  · rcases lt_trichotomy m n with lower | same | higher
    · exact this first second lower
    · exact same
    · exact (this second first higher).symm
  obtain ⟨near, tie⟩ := isNearest_iff.mp first
  obtain ⟨near', tie'⟩ := isNearest_iff.mp second
  obtain ⟨low, high⟩ := abs_le.mp near
  obtain ⟨low', high'⟩ := abs_le.mp near'
  have next : (m : ℚ) + 1 ≤ n := by exact_mod_cast less
  have far := tie ((abs_eq (by norm_num)).mpr (.inl (by linarith)))
  have far' := tie' ((abs_eq (by norm_num)).mpr (.inr (by linarith)))
  rcases le_or_gt 0 m with positive | negative
  · have positive' : (0 : ℚ) ≤ m := by exact_mod_cast positive
    rw [abs_of_nonneg (by linarith), abs_of_nonneg positive'] at far
    linarith
  · have negative' : (m : ℚ) + 1 ≤ 0 := by exact_mod_cast negative
    rw [abs_of_nonpos (by linarith), abs_of_nonpos (by linarith)] at far'
    linarith

/-- What is nearest lies on the other side of zero for the opposite number. -/
theorem IsNearest.neg {preferred' : ℤ → Prop} (nearest : IsNearest preferred a n)
    (opposite : preferred n → preferred' (-n)) : IsNearest preferred' (-a) (-n) := by
  have distance : |-a - ((-n : ℤ) : ℚ)| = |a - n| := by
    rw [Int.cast_neg, neg_sub_neg, abs_sub_comm]
  obtain ⟨near, tie⟩ := isNearest_iff.mp nearest
  rw [isNearest_iff, distance]
  exact ⟨near, fun half => opposite (tie half)⟩

/-! ## Quotients -/

section Quotient

variable {numerator denominator whole : Nat}

/-- How far a whole number is from a quotient, in parts of the denominator. -/
theorem abs_div_sub (numerator whole : Nat) (positive : 0 < denominator) :
    |(numerator : ℚ) / denominator - (whole : ℤ)| =
      |(numerator : ℚ) - whole * denominator| / denominator := by
  have positive' : (0 : ℚ) < denominator := by exact_mod_cast positive
  have common : (numerator : ℚ) / denominator - (whole : ℤ) =
      (numerator - whole * denominator) / denominator := by
    rw [Int.cast_natCast]
    field_simp
  rw [common, abs_div, abs_of_pos positive']

/-- A whole number is nearest to a quotient if it is no more than half the denominator away. -/
theorem isNearest_div {preferred : ℤ → Prop} (positive : 0 < denominator)
    (low : 2 * (whole * denominator) ≤ 2 * numerator + denominator)
    (high : 2 * numerator ≤ 2 * (whole * denominator) + denominator)
    (tie : 2 * (whole * denominator) = 2 * numerator + denominator ∨
      2 * numerator = 2 * (whole * denominator) + denominator → preferred whole) :
    IsNearest preferred ((numerator : ℚ) / denominator) (whole : ℤ) := by
  have positive' : (0 : ℚ) < denominator := by exact_mod_cast positive
  have low' : 2 * ((whole : ℚ) * denominator) ≤ 2 * numerator + denominator := by
    exact_mod_cast low
  have high' : 2 * (numerator : ℚ) ≤ 2 * (whole * denominator) + denominator := by
    exact_mod_cast high
  rw [isNearest_iff, abs_div_sub numerator whole positive, div_le_iff₀ positive',
    div_eq_iff positive'.ne', abs_le, abs_eq (by positivity)]
  refine ⟨⟨by linarith, by linarith⟩, ?_⟩
  rintro (above | below)
  · refine tie (.inr ?_)
    have equal : 2 * (numerator : ℚ) = 2 * (whole * denominator) + denominator := by linarith
    exact_mod_cast equal
  · refine tie (.inl ?_)
    have equal : 2 * ((whole : ℚ) * denominator) = 2 * numerator + denominator := by linarith
    exact_mod_cast equal

/-- A quotient is rounded to the nearest whole number, and to the even one of two. -/
theorem nearestEven_roundQuotient (positive : 0 < denominator) :
    NearestEven ((numerator : ℚ) / denominator) (roundQuotient numerator denominator : ℕ) := by
  obtain ⟨low, high⟩ := roundQuotient_near numerator positive
  refine isNearest_div positive low high fun tie => ?_
  have even := even_roundQuotient positive tie
  exact_mod_cast Nat.even_iff.mpr even

/-- The whole part of a quotient and one half is the nearest whole number, and the larger one of
two. -/
theorem nearestAway_add_half (positive : 0 < denominator) :
    NearestAway ((numerator : ℚ) / (2 * denominator : ℕ))
      ((numerator + denominator) / (2 * denominator) : ℕ) := by
  have twice : 0 < 2 * denominator := by omega
  have split := Nat.div_add_mod' (numerator + denominator) (2 * denominator)
  have small := Nat.mod_lt (numerator + denominator) twice
  refine isNearest_div twice (by omega) (by omega) fun tie => ?_
  have larger : (numerator : ℚ) <
      ((numerator + denominator) / (2 * denominator) : ℕ) * (2 * denominator : ℕ) := by
    have larger : numerator < (numerator + denominator) / (2 * denominator) * (2 * denominator) := by
      omega
    exact_mod_cast larger
  have twice' : (0 : ℚ) < (2 * denominator : ℕ) := by exact_mod_cast twice
  rw [abs_of_nonneg (by positivity), Int.cast_natCast, Nat.abs_cast, div_lt_iff₀ twice']
  exact larger

end Quotient

theorem cast_twoTo (exponent : Nat) : (twoTo exponent : ℚ) = 2 ^ exponent :=
  Nat.cast_pow 2 exponent

theorem cast_tenTo (exponent : Nat) : (tenTo exponent : ℚ) = 10 ^ exponent :=
  Nat.cast_pow 10 exponent

/-! ## Signs -/

variable {quanta : Nat}

theorem cast_signed (negative : Bool) (n : Nat) :
    (signed negative n : ℚ) = if negative then -(n : ℚ) else n := by
  cases negative with
  | true =>
      change ((-(n : ℤ) : ℤ) : ℚ) = -(n : ℚ)
      rw [Int.cast_neg, Int.cast_natCast]
  | false => rfl

theorem toRat_finite (negative : Bool) (representable : Representable quanta) :
    toRat (.finite negative quanta representable) =
      if negative then -((quanta : ℚ) / unit) else (quanta : ℚ) / unit := by
  rw [toRat, cast_signed]
  split
  · rw [neg_div]
  · rfl

theorem abs_toRat (negative : Bool) (representable : Representable quanta) :
    |toRat (.finite negative quanta representable)| = (quanta : ℚ) / unit := by
  have nonnegative : (0 : ℚ) ≤ (quanta : ℚ) / unit := by positivity
  rw [toRat_finite]
  split
  · rw [abs_neg, abs_of_nonneg nonnegative]
  · exact abs_of_nonneg nonnegative

theorem natAbs_signed (negative : Bool) (n : Nat) : (signed negative n).natAbs = n := by
  cases negative with
  | true => exact (Int.natAbs_neg n).trans (Int.natAbs_natCast n)
  | false => exact Int.natAbs_natCast n

theorem signed_mul (negative : Bool) (a b : Nat) :
    signed negative (a * b) = signed negative a * b := by
  cases negative with
  | true => exact (congrArg Neg.neg (Int.natCast_mul a b)).trans (Int.neg_mul _ _).symm
  | false => exact Int.natCast_mul a b

theorem exists_of_whole {negative : Bool} {representable : Representable quanta} {n : ℤ}
    (whole : (finite negative quanta representable).toRat = n) :
    ∃ m, quanta = m * unit ∧ n = signed negative m := by
  have positive : (unit : ℚ) ≠ 0 := by exact_mod_cast unit_pos.ne'
  have same : signed negative quanta = n * unit := by
    have quotient : (signed negative quanta : ℚ) / unit = n := whole
    rw [div_eq_iff positive] at quotient
    exact_mod_cast quotient
  have magnitude : quanta = n.natAbs * unit := by
    have abs := congrArg Int.natAbs same
    rwa [natAbs_signed, Int.natAbs_mul, Int.natAbs_natCast] at abs
  refine ⟨n.natAbs, magnitude, ?_⟩
  have cancel : n * unit = signed negative n.natAbs * unit := by
    rw [← same, magnitude, signed_mul]
  exact Int.eq_of_mul_eq_mul_right (by exact_mod_cast unit_pos.ne') cancel

/-- The sign of a number is the one of what it is rounded to. -/
theorem NearestEven.signed (negative : Bool) {whole : Nat} (nearest : NearestEven a whole) :
    NearestEven (if negative then -a else a) (signed negative whole) := by
  cases negative with
  | true => exact nearest.neg fun even => even.neg
  | false => exact nearest

theorem NearestAway.signed (negative : Bool) {whole : Nat} (nearest : NearestAway a whole) :
    NearestAway (if negative then -a else a) (signed negative whole) := by
  cases negative with
  | true =>
      refine nearest.neg fun larger => ?_
      rwa [if_pos rfl, abs_neg, Int.cast_neg, abs_neg]
  | false => exact nearest

end Spreadsheet.Number
