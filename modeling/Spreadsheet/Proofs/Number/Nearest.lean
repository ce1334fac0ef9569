import Spreadsheet.Number.Rounding

/-!
# The nearest magnitude

Rounding a quotient to a whole number goes no further than one half, and to the even number
from just one half.  So it never goes past a whole number, and rounding to fifty-three
significant bits never goes past a magnitude that has no more of them.  This is all that the
laws of rounded operations need to know of it.
-/

namespace Spreadsheet.Number

/-! ## Whole numbers -/

section Whole

variable {numerator denominator whole : Nat}

/-- A quotient is rounded by at most one half, -/
theorem roundQuotient_near (numerator : Nat) (positive : 0 < denominator) :
    2 * (roundQuotient numerator denominator * denominator) ≤ 2 * numerator + denominator ∧
      2 * numerator ≤ 2 * (roundQuotient numerator denominator * denominator) + denominator := by
  have split := Nat.div_add_mod' numerator denominator
  have small := Nat.mod_lt numerator positive
  simp only [roundQuotient]
  split
  · omega
  · split
    · rw [Nat.add_mul]
      omega
    · rcases Nat.mod_two_eq_zero_or_one (numerator / denominator) with even | odd
      · rw [even, Nat.add_zero]
        omega
      · rw [odd, Nat.add_mul]
        omega

/-- and from one half to an even number. -/
theorem even_roundQuotient (positive : 0 < denominator)
    (tie : 2 * (roundQuotient numerator denominator * denominator) = 2 * numerator + denominator ∨
      2 * numerator = 2 * (roundQuotient numerator denominator * denominator) + denominator) :
    roundQuotient numerator denominator % 2 = 0 := by
  have split := Nat.div_add_mod' numerator denominator
  have small := Nat.mod_lt numerator positive
  simp only [roundQuotient] at tie ⊢
  split at tie
  · omega
  · split at tie
    · rw [Nat.add_mul] at tie
      omega
    · rw [if_neg ‹_›, if_neg ‹_›]
      omega

/-- A quotient less than one half above a whole number is not rounded up past it, -/
theorem roundQuotient_le_of_lt (positive : 0 < denominator)
    (below : 2 * numerator < 2 * (whole * denominator) + denominator) :
    roundQuotient numerator denominator ≤ whole := by
  have near := (roundQuotient_near numerator positive).1
  apply Nat.le_of_lt_succ
  refine Nat.lt_of_mul_lt_mul_right (a := denominator) ?_
  rw [Nat.succ_mul]
  omega

/-- nor is one less than one half below it rounded down past it. -/
theorem le_roundQuotient_of_lt (positive : 0 < denominator)
    (above : 2 * (whole * denominator) < 2 * numerator + denominator) :
    whole ≤ roundQuotient numerator denominator := by
  have near := (roundQuotient_near numerator positive).2
  apply Nat.le_of_lt_succ
  refine Nat.lt_of_mul_lt_mul_right (a := denominator) ?_
  rw [Nat.succ_mul]
  omega

theorem roundQuotient_eq_of_lt (above : 2 * (whole * denominator) < 2 * numerator + denominator)
    (below : 2 * numerator < 2 * (whole * denominator) + denominator) :
    roundQuotient numerator denominator = whole :=
  Nat.le_antisymm (roundQuotient_le_of_lt (by omega) below)
    (le_roundQuotient_of_lt (by omega) above)

/-- Rounding does not go up past a whole number, -/
theorem roundQuotient_le_of_le_mul (positive : 0 < denominator)
    (below : numerator ≤ whole * denominator) : roundQuotient numerator denominator ≤ whole :=
  roundQuotient_le_of_lt positive (by omega)

/-- nor down. -/
theorem le_roundQuotient_of_mul_le (positive : 0 < denominator)
    (above : whole * denominator ≤ numerator) : whole ≤ roundQuotient numerator denominator :=
  le_roundQuotient_of_lt positive (by omega)

/-- Nothing but what is at most one half is rounded to zero. -/
theorem roundQuotient_eq_zero_iff (positive : 0 < denominator) :
    roundQuotient numerator denominator = 0 ↔ 2 * numerator ≤ denominator := by
  constructor
  · intro zero
    have near := (roundQuotient_near numerator positive).2
    rw [zero] at near
    omega
  · intro small
    rw [roundQuotient, Nat.div_eq_of_lt (by omega), Nat.mod_eq_of_lt (by omega)]
    split
    · rfl
    · exact if_neg (by omega)

theorem roundQuotient_mul_add (whole : Nat) {extra : Nat} (small : extra < denominator) :
    roundQuotient (whole * denominator + extra) denominator =
      if 2 * extra < denominator then whole
      else if denominator < 2 * extra then whole + 1
      else whole + whole % 2 := by
  have positive : 0 < denominator := Nat.zero_lt_of_lt small
  have quotient : (whole * denominator + extra) / denominator = whole := by
    rw [Nat.add_comm, Nat.add_mul_div_right _ _ positive, Nat.div_eq_of_lt small, Nat.zero_add]
  have remainder : (whole * denominator + extra) % denominator = extra := by
    rw [Nat.add_comm, Nat.add_mul_mod_self_right, Nat.mod_eq_of_lt small]
  simp only [roundQuotient, quotient, remainder]

end Whole

/-! ## Significant bits -/

section Bits

variable {numerator denominator quanta : Nat}

theorem spacing_pos (quanta : Nat) : 0 < spacing quanta :=
  twoTo_pos _

theorem twoTo_log2_le {quanta : Nat} (positive : quanta ≠ 0) : twoTo quanta.log2 ≤ quanta :=
  Nat.log2_self_le positive

theorem log2_mono {a b : Nat} (le : a ≤ b) : a.log2 ≤ b.log2 := by
  by_cases none : a = 0
  · rw [none]
    exact Nat.zero_le _
  · have positive : b ≠ 0 := by omega
    exact (Nat.le_log2 positive).mpr (Nat.le_trans (twoTo_log2_le none) le)

/-- Larger magnitudes lie no closer to one another. -/
theorem spacing_dvd_spacing {a b : Nat} (le : a ≤ b) : spacing a ∣ spacing b :=
  twoTo_dvd (Nat.sub_le_sub_right (log2_mono le) 52)

theorem mul_spacing_pos (positive : 0 < denominator) (quanta : Nat) :
    0 < denominator * spacing quanta :=
  Nat.mul_pos positive (spacing_pos quanta)

/-- Rounding does not go up past a magnitude with fifty-three significant bits, -/
theorem nearest_le_of_le_mul (positive : 0 < denominator) (divides : spacing quanta ∣ quanta)
    (below : numerator ≤ quanta * denominator) : nearest numerator denominator ≤ quanta := by
  have lower : numerator / denominator ≤ quanta :=
    Nat.le_of_mul_le_mul_right (Nat.le_trans (Nat.div_mul_le_self _ _) below) positive
  obtain ⟨steps, same⟩ := Nat.dvd_trans (spacing_dvd_spacing lower) divides
  rw [Nat.mul_comm] at same
  have fewer : roundQuotient numerator (denominator * spacing (numerator / denominator)) ≤ steps := by
    apply roundQuotient_le_of_le_mul (mul_spacing_pos positive _)
    rwa [Nat.mul_comm denominator, ← Nat.mul_assoc, ← same]
  calc
    nearest numerator denominator ≤ steps * spacing (numerator / denominator) :=
      Nat.mul_le_mul_right _ fewer
    _ = quanta := same.symm

/-- A multiple of the step at the height of a quotient that is not above the quotient. -/
private theorem mul_spacing_le_nearest (positive : 0 < denominator) {steps : Nat}
    (above : steps * spacing (numerator / denominator) * denominator ≤ numerator) :
    steps * spacing (numerator / denominator) ≤ nearest numerator denominator := by
  refine Nat.mul_le_mul_right _ (le_roundQuotient_of_mul_le (mul_spacing_pos positive _) ?_)
  rwa [Nat.mul_comm denominator, ← Nat.mul_assoc]

/-- nor down. -/
theorem le_nearest_of_mul_le (positive : 0 < denominator) (divides : spacing quanta ∣ quanta)
    (above : quanta * denominator ≤ numerator) : quanta ≤ nearest numerator denominator := by
  have lower : quanta ≤ numerator / denominator := (Nat.le_div_iff_mul_le positive).mpr above
  by_cases same : spacing (numerator / denominator) ∣ quanta
  · obtain ⟨steps, multiple⟩ := same
    rw [Nat.mul_comm] at multiple
    have reached := @mul_spacing_le_nearest numerator denominator positive steps
    rw [← multiple] at reached
    exact reached above
  · -- The steps at the height of the quotient are longer, so that height begins above.
    have higher : quanta.log2 < (numerator / denominator).log2 := by
      apply Nat.lt_of_not_le
      intro notHigher
      exact same (Nat.dvd_trans (twoTo_dvd (Nat.sub_le_sub_right notHigher 52)) divides)
    have long : 52 ≤ (numerator / denominator).log2 := by
      apply Nat.le_of_not_lt
      intro short
      rw [spacing, Nat.sub_eq_zero_of_le (Nat.le_of_lt short)] at same
      exact same (Nat.one_dvd quanta)
    have first : twoTo 52 * spacing (numerator / denominator) =
        twoTo (numerator / denominator).log2 := by
      rw [spacing, ← twoTo_add, Nat.add_sub_cancel' long]
    have notZero : numerator / denominator ≠ 0 := by
      intro zero
      rw [zero] at long
      exact absurd long (by decide)
    calc
      quanta ≤ twoTo (quanta.log2 + 1) := Nat.le_of_lt (lt_twoTo_log2 quanta)
      _ ≤ twoTo (numerator / denominator).log2 := twoTo_le higher
      _ = twoTo 52 * spacing (numerator / denominator) := first.symm
      _ ≤ nearest numerator denominator := by
        apply mul_spacing_le_nearest positive
        rw [first, ← Nat.le_div_iff_mul_le positive]
        exact twoTo_log2_le notZero

/-- A magnitude is rounded by at most half a step. -/
theorem nearest_near (quanta : Nat) : 2 * nearest quanta 1 ≤ 2 * quanta + spacing quanta := by
  rw [nearest, Nat.div_one, Nat.one_mul]
  exact (roundQuotient_near quanta (spacing_pos quanta)).1

/-- A quotient that is a magnitude with fifty-three significant bits is not rounded. -/
theorem nearest_mul (positive : 0 < denominator) (divides : spacing quanta ∣ quanta) :
    nearest (quanta * denominator) denominator = quanta :=
  Nat.le_antisymm (nearest_le_of_le_mul positive divides (Nat.le_refl _))
    (le_nearest_of_mul_le positive divides (Nat.le_refl _))

theorem nearest_one (divides : spacing quanta ∣ quanta) : nearest quanta 1 = quanta := by
  have same := nearest_mul Nat.one_pos divides
  rwa [Nat.mul_one] at same

end Bits

end Spreadsheet.Number
