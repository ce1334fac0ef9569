import Spreadsheet.Number.Basic
import Spreadsheet.Proofs.Number.Nearest

/-!
# Whole numbers and tenths

A whole number of at most `2 ^ 53` is a number without rounding, so such numbers are
added without rounding, too.  A power of one tenth is rounded, and is finite nevertheless.
-/

namespace Spreadsheet.Number

theorem twoTo_lt {a b : Nat} (less : a < b) : twoTo a < twoTo b :=
  Nat.pow_lt_pow_right Nat.one_lt_two less

theorem twoTo_succ (exponent : Nat) : twoTo (exponent + 1) = 2 * twoTo exponent :=
  Nat.pow_succ'

/-- A whole number whose quanta have fifty-three significant bits is not rounded, -/
theorem ofNat_eq {n : Nat} (representable : Representable (n * unit)) :
    ofNat n = .finite false (n * unit) representable := by
  have rounded : nearest (n * unit) 1 = n * unit := nearest_one representable.2
  simp only [ofNat, ofRatio, rounded, dif_pos representable.1]

/-- as a whole number of at most `2 ^ 53` is not. -/
theorem exists_ofNat_eq {n : Nat} (small : n ≤ twoTo 53) :
    ∃ representable, ofNat n = .finite false (n * unit) representable := by
  have fits : n * unit < beyondFinite := by
    apply Nat.lt_of_le_of_lt (Nat.mul_le_mul_right unit small)
    rw [unit, ← twoTo_add, beyondFinite]
    exact twoTo_lt (by decide)
  exact ⟨_, ofNat_eq ⟨fits, spacing_dvd_mul small⟩⟩

/-- The sum of two such numbers is the number of their sum. -/
theorem ofNat_add {n k : Nat} (small : n ≤ twoTo 53) (small' : k ≤ twoTo 53) :
    ofNat (n + k) = ofNat n + ofNat k := by
  obtain ⟨_, first⟩ := exists_ofNat_eq small
  obtain ⟨_, second⟩ := exists_ofNat_eq small'
  rw [first, second]
  change _ = add (.finite false (n * unit) _) (.finite false (k * unit) _)
  have total : signed false (n * unit) + signed false (k * unit) = ((n + k) * unit : Nat) := by
    rw [Nat.add_mul]
    rfl
  simp only [add, total]
  by_cases none : n + k = 0
  · rw [none, Nat.zero_mul, if_pos Int.natCast_zero]
    obtain ⟨_, same⟩ := exists_ofNat_eq (Nat.zero_le (twoTo 53))
    simp only [same, Nat.zero_mul, zero, Bool.and_false]
  · have positive : ((n + k) * unit : Nat) ≠ 0 := Nat.mul_ne_zero none (Nat.ne_of_gt (twoTo_pos _))
    rw [if_neg (by omega), Int.natAbs_natCast, decide_eq_false (by omega)]
    rfl

/-- No power of one tenth is too large to be finite. -/
theorem exists_tenth_eq (places : Nat) :
    ∃ representable, tenth places = .finite false (nearest unit (tenTo places)) representable := by
  have positive : 0 < tenTo places := Nat.pow_pos (by decide)
  have divides : spacing unit ∣ unit := by
    rw [spacing, unit, log2_twoTo]
    exact twoTo_dvd (by decide)
  have small : nearest unit (tenTo places) ≤ unit :=
    nearest_le_of_le_mul positive divides (Nat.le_mul_of_pos_right unit positive)
  have fits : nearest unit (tenTo places) < beyondFinite :=
    Nat.lt_of_le_of_lt small (twoTo_lt (by decide))
  rw [tenth, ofRatio, dif_pos fits]
  exact ⟨representable_nearest fits, rfl⟩

end Spreadsheet.Number
