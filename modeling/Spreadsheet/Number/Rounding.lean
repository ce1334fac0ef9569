/-!
# Rounding to fifty-three significant bits

Magnitudes are counted in quanta of `2 ^ (-1074)`, the smallest step between
two double-precision numbers, so every finite number is a natural number of
quanta and every exact result of an operation is a quotient of two naturals.
A magnitude is representable when at most fifty-three of its bits are
significant and it lies below `2 ^ 1024`.  `nearest` rounds a quotient to the
nearest magnitude with fifty-three significant bits; of two equally near ones it
takes the one whose last significant bit is zero.
-/

namespace Spreadsheet.Number

/-! ## Powers of two and ten -/

/-- A power of two. -/
def twoTo (exponent : Nat) : Nat := Nat.pow 2 exponent

/-- A power of ten. -/
def tenTo (exponent : Nat) : Nat := Nat.pow 10 exponent

theorem twoTo_pos (exponent : Nat) : 0 < twoTo exponent :=
  Nat.two_pow_pos exponent

theorem twoTo_add (a b : Nat) : twoTo (a + b) = twoTo a * twoTo b :=
  Nat.pow_add 2 a b

theorem twoTo_le {a b : Nat} (le : a ≤ b) : twoTo a ≤ twoTo b :=
  Nat.pow_le_pow_right Nat.two_pos le

theorem twoTo_dvd {a b : Nat} (le : a ≤ b) : twoTo a ∣ twoTo b :=
  Nat.pow_dvd_pow 2 le

theorem log2_twoTo (exponent : Nat) : (twoTo exponent).log2 = exponent :=
  Nat.log2_two_pow

theorem lt_twoTo_log2 (n : Nat) : n < twoTo (n.log2 + 1) :=
  Nat.lt_log2_self

theorem log2_lt {n exponent : Nat} (positive : n ≠ 0) (below : n < twoTo exponent) :
    n.log2 < exponent :=
  (Nat.log2_lt positive).mpr below

/-! ## Representable magnitudes -/

/-- The number of quanta in one. -/
def unit : Nat := twoTo 1074

/-- The first number of quanta beyond the finite numbers. -/
def beyondFinite : Nat := twoTo 2098

/-- The distance between neighbours with fifty-three significant bits at the
height of `quanta`. -/
def spacing (quanta : Nat) : Nat :=
  twoTo (quanta.log2 - 52)

/-- A number of quanta that a finite double-precision number can have. -/
def Representable (quanta : Nat) : Prop :=
  quanta < beyondFinite ∧ spacing quanta ∣ quanta

instance (quanta : Nat) : Decidable (Representable quanta) :=
  inferInstanceAs (Decidable (_ ∧ _))

theorem representable_zero : Representable 0 :=
  ⟨twoTo_pos _, Nat.dvd_zero _⟩

/-! ## Rounding -/

/-- The whole number nearest to a quotient, and the even one of two equally
near. -/
def roundQuotient (numerator denominator : Nat) : Nat :=
  let whole := numerator / denominator
  let remainder := numerator % denominator
  if 2 * remainder < denominator then whole
  else if denominator < 2 * remainder then whole + 1
  else whole + whole % 2

theorem roundQuotient_le (numerator denominator : Nat) :
    roundQuotient numerator denominator ≤ numerator / denominator + 1 := by
  unfold roundQuotient
  dsimp only
  split
  · omega
  · split <;> omega

/-- The magnitude with fifty-three significant bits that is nearest to a
quotient of quanta. -/
def nearest (numerator denominator : Nat) : Nat :=
  let step := spacing (numerator / denominator)
  roundQuotient numerator (denominator * step) * step

/-- A multiple of a power of two by at most `2 ^ 53` has fifty-three
significant bits. -/
theorem spacing_dvd_mul {count shift : Nat} (small : count ≤ twoTo 53) :
    spacing (count * twoTo shift) ∣ count * twoTo shift := by
  unfold spacing
  by_cases none : count = 0
  · subst none
    simp
  · have positive : count * twoTo shift ≠ 0 :=
      Nat.mul_ne_zero none (Nat.ne_of_gt (twoTo_pos shift))
    by_cases full : count = twoTo 53
    · subst full
      rw [← twoTo_add, log2_twoTo]
      exact twoTo_dvd (by omega)
    · have below : count * twoTo shift < twoTo (53 + shift) := by
        rw [twoTo_add]
        exact Nat.mul_lt_mul_of_pos_right (by omega) (twoTo_pos shift)
      have height := log2_lt positive below
      exact Nat.dvd_trans (twoTo_dvd (by omega)) (Nat.dvd_mul_left _ _)

/-- A magnitude is less than `2 ^ 53` steps of its height. -/
theorem div_spacing_lt (quanta : Nat) : quanta / spacing quanta < twoTo 53 := by
  unfold spacing
  rw [Nat.div_lt_iff_lt_mul (twoTo_pos _), ← twoTo_add]
  exact Nat.lt_of_lt_of_le (lt_twoTo_log2 quanta) (twoTo_le (by omega))

/-- Rounding yields a magnitude with fifty-three significant bits. -/
theorem spacing_dvd_nearest (numerator denominator : Nat) :
    spacing (nearest numerator denominator) ∣ nearest numerator denominator := by
  refine spacing_dvd_mul ?_
  have upper := roundQuotient_le numerator
    (denominator * spacing (numerator / denominator))
  rw [← Nat.div_div_eq_div_mul] at upper
  have below := div_spacing_lt (numerator / denominator)
  omega

/-- A rounded magnitude that does not overflow is representable. -/
theorem representable_nearest {numerator denominator : Nat}
    (fits : nearest numerator denominator < beyondFinite) :
    Representable (nearest numerator denominator) :=
  ⟨fits, spacing_dvd_nearest numerator denominator⟩

end Spreadsheet.Number
