import Spreadsheet.Number.Power
import Spreadsheet.Proofs.Number.Rational

/-!
# Rounding a number to a whole number

Rounding by the sum with one half takes a number to the nearest whole number, and to the one
farther from zero of two, unless the rounded sum has too large a whole part.  Then the number is
taken one farther than that, and is more than one half away from what it is taken to.
-/

namespace Spreadsheet.Number

variable {quanta : Nat}

/-- The numbers that are rounded too far: the last ones before one half, and the odd whole
numbers between `2 ^ 52` and `2 ^ 53`, of either sign. -/
def RoundedTooFar (x : Number) : Prop :=
  |x.toRat| = 1 / 2 - 1 / 2 ^ 54 ∨
    ∃ n : ℕ, Odd n ∧ 2 ^ 52 < n ∧ n < 2 ^ 53 ∧ |x.toRat| = n

theorem cast_beforeHalf : (beforeHalf : ℚ) = (1 / 2 - 1 / 2 ^ 54) * unit := by
  have before : beforeHalf + twoTo 1020 = twoTo 53 * twoTo 1020 := by
    rw [beforeHalf, halfUnit, ← twoTo_add]
    exact Nat.sub_add_cancel (twoTo_le (by decide))
  have before' : (beforeHalf : ℚ) + twoTo 1020 = 2 ^ 53 * twoTo 1020 := by
    rw [← cast_twoTo 53]
    exact_mod_cast before
  have whole : (unit : ℚ) = 2 ^ 54 * twoTo 1020 := by
    rw [← cast_twoTo 54, unit, ← Nat.cast_mul, ← twoTo_add]
  rw [whole]
  linarith

/-- The numbers that are rounded too far are those with a misrounded magnitude. -/
theorem roundedTooFar_iff (negative : Bool) (representable : Representable quanta) :
    (finite negative quanta representable).RoundedTooFar ↔ Misrounded quanta := by
  have positive : (unit : ℚ) ≠ 0 := by exact_mod_cast unit_pos.ne'
  rw [RoundedTooFar, Misrounded, abs_toRat]
  apply or_congr
  · rw [div_eq_iff positive, ← cast_beforeHalf]
    exact Nat.cast_inj
  · refine exists_congr fun n => ?_
    rw [Nat.odd_iff, div_eq_iff positive, ← Nat.cast_mul, Nat.cast_inj]
    rfl

theorem toRat_mul_unit (negative : Bool) {whole : Nat} (representable : Representable (whole * unit)) :
    (finite negative (whole * unit) representable).toRat = (signed negative whole : ℚ) := by
  have positive : (unit : ℚ) ≠ 0 := by exact_mod_cast unit_pos.ne'
  rw [toRat_finite, cast_signed, Nat.cast_mul, mul_div_cancel_right₀ _ positive]

theorem toRat_ofNat {n : Nat} (small : n ≤ twoTo 53) : (ofNat n).toRat = (n : ℤ) := by
  obtain ⟨representable, same⟩ := exists_ofNat_eq small
  rw [same, toRat_mul_unit]
  rfl

/-- How far a number is from a whole number on its side of zero. -/
theorem abs_signed_sub_toRat (negative : Bool) (representable : Representable quanta)
    (whole : Nat) :
    |(signed negative whole : ℚ) - (finite negative quanta representable).toRat| =
      |(whole : ℚ) - quanta / unit| := by
  rw [toRat_finite, cast_signed]
  cases negative with
  | true => rw [if_pos rfl, if_pos rfl, ← neg_sub', abs_neg]
  | false => rfl

theorem nearestAway_floor (negative : Bool) (representable : Representable quanta) :
    NearestAway (finite negative quanta representable).toRat
      (signed negative ((quanta + halfUnit) / unit)) := by
  rw [toRat_finite, unit_eq]
  exact (nearestAway_add_half halfUnit_pos).signed negative

/-- One more than that is more than one half away. -/
theorem half_lt_succ_floor (quanta : Nat) :
    1 / 2 < (((quanta + halfUnit) / unit + 1 : ℕ) : ℚ) - quanta / unit := by
  have positive : (0 : ℚ) < unit := by exact_mod_cast unit_pos
  have above : (quanta : ℚ) + halfUnit < unit * ((quanta + halfUnit) / unit + 1 : ℕ) := by
    exact_mod_cast Nat.lt_mul_div_succ (quanta + halfUnit) unit_pos
  have half : (unit : ℚ) = 2 * halfUnit := by exact_mod_cast unit_eq
  rw [lt_sub_iff_add_lt, ← lt_sub_iff_add_lt', div_lt_iff₀ positive]
  linarith

theorem signed_succ (negative : Bool) (n : Nat) :
    signed negative (n + 1) = signed negative n + if negative then -1 else 1 := by
  cases negative with
  | true => exact (congrArg Neg.neg (Int.natCast_succ n)).trans (Int.neg_add)
  | false => rfl

theorem exists_rounded {x : Number} (finite : x.isFinite = true) :
    ∃ y, x.roundHalfAway = .ok y ∧ y.isFinite = true ∧ ∃ nearest : ℤ,
      NearestAway x.toRat nearest ∧
      (¬ x.RoundedTooFar → y.toRat = nearest) ∧
      (x.RoundedTooFar → y.toRat = nearest + if x.isNegative then -1 else 1) ∧
      (|y.toRat - x.toRat| ≤ 1 / 2 ↔ ¬ x.RoundedTooFar) := by
  cases x with
  | finite negative quanta representable =>
      obtain ⟨representable', rounded⟩ := exists_roundHalfAway_eq negative representable
      have nearest := nearestAway_floor negative representable
      refine ⟨_, rounded, rfl, _, nearest, ?_⟩
      rw [roundedTooFar_iff, toRat_mul_unit, abs_signed_sub_toRat]
      by_cases misrounded : Misrounded quanta
      · rw [plusHalf_div_of_misrounded misrounded]
        refine ⟨fun regular => absurd misrounded regular, fun _ => ?_, ?_⟩
        · rw [signed_succ]
          cases negative <;> simp [isNegative]
        · refine iff_of_false (fun near => ?_) (not_not_intro misrounded)
          exact absurd (le_trans (le_abs_self _) near) (not_le_of_gt (half_lt_succ_floor quanta))
      · rw [plusHalf_div_of_not_misrounded representable.2 misrounded]
        refine ⟨fun _ => rfl, fun impossible => absurd impossible misrounded, ?_⟩
        refine iff_of_true ?_ misrounded
        have near := (isNearest_iff.mp nearest).1
        rwa [abs_sub_comm, abs_signed_sub_toRat] at near
  | infinite negative => cases finite
  | nan => cases finite

end Spreadsheet.Number
