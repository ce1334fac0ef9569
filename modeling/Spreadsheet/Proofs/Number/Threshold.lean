import Spreadsheet.Proofs.Number.Exact

/-!
# The bound below which a number counts as zero

A number is tested against the bound in two ways: whether its magnitude is below it, and
whether its magnitude is above it.  One is the opposite of the other for all numbers but two
magnitudes, the bound itself and NaN.
-/

namespace Spreadsheet.Number

/-- The bound in quanta. -/
def bound : Nat :=
  nearest unit (tenTo 12)

theorem exists_epsilon_eq : ∃ representable, epsilon = .finite false bound representable :=
  exists_tenth_eq 12

/-- Only NaN and the bound are neither below the bound nor above it. -/
theorem isSignificant_eq_iff (x : Number) :
    x.isSignificant = !x.isNegligible ↔ x ≠ .nan ∧ x.abs ≠ epsilon := by
  obtain ⟨_, isBound⟩ := exists_epsilon_eq
  rw [isSignificant, isNegligible, isBound]
  cases x with
  | nan => simp [abs, withSign, less]
  | infinite negative => simp [abs, withSign, less]
  | finite negative quanta representable =>
      simp only [abs, withSign, less, signed, Bool.false_eq_true, if_false, ne_eq, reduceCtorEq,
        not_false_eq_true, true_and, finite.injEq, Int.ofNat_lt]
      rcases Nat.lt_trichotomy quanta bound with below | same | above
      · simp [below, Nat.ne_of_lt below, Nat.le_of_lt below]
      · simp [same]
      · simp [above, Nat.ne_of_gt above, Nat.le_of_lt above]

/-- No natural number but zero counts as zero. -/
theorem isNegligible_ofNat {n : Nat} (positive : 0 < n) : (ofNat n).isNegligible = false := by
  obtain ⟨_, isBound⟩ := exists_epsilon_eq
  have least : bound ≤ n * unit := calc
    bound ≤ unit := by decide +kernel
    _ ≤ n * unit := Nat.le_mul_of_pos_left unit positive
  have divides : spacing bound ∣ bound := spacing_dvd_nearest unit (tenTo 12)
  have above : bound ≤ nearest (n * unit) 1 := by
    apply le_nearest_of_mul_le Nat.one_pos divides
    rwa [Nat.mul_one]
  rw [isNegligible, isBound]
  by_cases fits : nearest (n * unit) 1 < beyondFinite
  · rw [ofNat, ofRatio, dif_pos fits]
    simp only [abs, withSign, less, signed, Bool.false_eq_true, if_false]
    exact decide_eq_false (Int.not_lt.mpr (Int.ofNat_le.mpr above))
  · rw [ofNat, ofRatio, dif_neg fits]
    rfl

end Spreadsheet.Number
