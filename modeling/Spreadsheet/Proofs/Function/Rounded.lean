import Spreadsheet.Proofs.Function.Called
import Spreadsheet.Proofs.Number.Rounded
import Spreadsheet.Proofs.Query.Wording

/-!
# Rounding without decimal places

`ROUND` of one argument scales by one, which changes no number, so all it does is to round the
value of its argument to a whole number.
-/

namespace Spreadsheet

open Number (NearestAway)

namespace Number

theorem exists_one_eq : ∃ representable, one = .finite false unit representable := by
  have same : one = ofNat 1 := rfl
  rw [same, ← Nat.one_mul unit]
  exact exists_ofNat_eq (twoTo_pos 53)

section Scaling

variable {a b : Nat} (negative negative' : Bool) (first : Representable a)
  (second : Representable b)

theorem mul_finite : finite negative a first * finite negative' b second =
    ofRatio (negative != negative') (a * b) unit := by
  change mul (.finite negative a first) (.finite negative' b second) = _
  rw [mul]

theorem div_finite (positive : b ≠ 0) : finite negative a first / finite negative' b second =
    ofRatio (negative != negative') (a * unit) b := by
  change div (.finite negative a first) (.finite negative' b second) = _
  rw [div, if_neg positive]

theorem ofRatio_mul_unit : ofRatio negative (a * unit) unit = .finite negative a first := by
  have same : nearest (a * unit) unit = a := nearest_mul unit_pos first.2
  simp only [ofRatio, same, dif_pos first.1]

end Scaling

theorem scaled_one {x : Number} (finite : x.isFinite = true) : x * one = x ∧ x / one = x := by
  obtain ⟨unitRepresentable, isOne⟩ := exists_one_eq
  cases x with
  | finite negative quanta representable =>
      rw [isOne, mul_finite, div_finite _ _ _ _ unit_pos.ne', Bool.bne_false,
        ofRatio_mul_unit negative representable]
      exact ⟨rfl, rfl⟩
  | infinite negative => cases finite
  | nan => cases finite

end Number

/-- A finite number is rounded to no decimal places as to a whole number. -/
theorem Function.rounded_zero {x y : Number} (finite : x.isFinite = true)
    (rounds : x.roundHalfAway = .ok y) (finite' : y.isFinite = true) :
    rounded x (.zero false) = .done y := by
  have power : Number.powerOfTen? (.zero false) = some .one := rfl
  have notZero : Number.one.isZero = false := by decide +kernel
  simp only [rounded, roundTo, power, (Number.scaled_one finite).1, rounds, notZero,
    (Number.scaled_one finite').2, Bool.false_eq_true, if_false]

theorem Query.exists_within_eq_fail {α : Type} {share room : Nat} {inner : Nat → Query α}
    (fails : ∀ rest, ∃ failure, inner rest = .fail failure) :
    ∃ failure, within share room inner = .fail failure := by
  rw [within]
  split
  · exact fails _
  · exact ⟨_, rfl⟩

namespace Registry

variable {functions : Registry} {argument : Text} {room : Nat}

/-- Rounding is done with the value of the argument. -/
theorem query_round (keeps : functions.Keeps .round) (balanced : Balanced false argument)
    (solid : argument.strip ≠ []) (room : Nat) :
    functions.query room (Builtin.round.word.called [argument]) =
      functions.argumentValue room argument >>= fun value =>
        Function.rounded value (.zero false) := by
  refine query_bind_argumentValue keeps.find? (List.forall_mem_singleton.mpr balanced)
    fun rest left _ => ?_
  rw [passed_single solid]
  rfl

variable {ε σ : Type} {resolver : Nat → Text → ExceptT ε (StateM σ) CellValue}
  {state after : σ}

theorem evaluate_nil (functions : Registry) (calls room : Nat) :
    ∃ failure, functions.evaluate calls room [] = .fail failure := by
  have read : Formula.ofText [] = .broken .endOfFormula := by decide +kernel
  cases calls with
  | zero => exact ⟨_, rfl⟩
  | succ calls =>
      rw [evaluate_succ, read]
      exact ⟨_, rfl⟩

theorem solid_of_argumentValue {x : Number}
    (value : (functions.argumentValue room argument).hold resolver state = (.ok (.ok x), after)) :
    argument.strip ≠ [] := by
  intro blank
  obtain ⟨failure, fails⟩ : ∃ failure, functions.argumentValue room argument = .fail failure := by
    rw [argumentValue, blank]
    refine Query.exists_within_eq_fail fun rest => Query.exists_within_eq_fail fun left => ?_
    rw [Call.evaluate, Call.within]
    exact Query.exists_within_eq_fail fun inner => functions.evaluate_nil rest inner
  rw [fails] at value
  cases value

/-- `ROUND` of an argument with a finite value is the nearest whole number, and the one farther
from zero of two, except for the values that are rounded too far: those become one more than
that, on their side of zero.  So exactly the others are changed by at most one half, and exactly
the others stay what they are if they are whole numbers. -/
theorem round_nearest (keeps : functions.Keeps .round) (balanced : Balanced false argument)
    {x : Number} (finite : x.isFinite = true)
    (value : (functions.argumentValue room argument).hold resolver state =
      (.ok (.ok x), after)) :
    ∃ y : Number, ∃ nearest : ℤ,
      (functions.query room (Builtin.round.word.called [argument])).hold resolver state =
        (.ok (.ok y), after) ∧
      y.isFinite = true ∧ NearestAway x.toRat nearest ∧
      (¬ x.RoundedTooFar → y.toRat = nearest) ∧
      (x.RoundedTooFar → y.toRat = nearest + if x.isNegative then -1 else 1) ∧
      (|y.toRat - x.toRat| ≤ 1 / 2 ↔ ¬ x.RoundedTooFar) ∧
      ∀ n : ℤ, x.toRat = n → (y.toRat = n ↔ ¬ x.RoundedTooFar) := by
  obtain ⟨y, rounds, finite', nearest, isNearest, regular, tooFar, near⟩ :=
    Number.exists_rounded finite
  refine ⟨y, nearest, ?_, finite', isNearest, regular, tooFar, near, ?_⟩
  · rw [query_round keeps balanced (solid_of_argumentValue value), Query.hold_bind, value]
    dsimp only
    rw [Function.rounded_zero finite rounds finite']
    rfl
  · intro n whole
    have same : nearest = n := by
      rw [whole] at isNearest
      exact isNearest.unique (Number.isNearest_self n)
    rw [← near, whole]
    constructor
    · intro unchanged
      rw [unchanged, sub_self, abs_zero]
      norm_num
    · intro close
      rw [regular (near.mp (whole ▸ close)), same]

/-- The first odd whole number above `2 ^ 52` is rounded to the next even one. -/
theorem round_nearest_odd :
    let unanswered : Nat → Text → ExceptT Empty (StateM Unit) CellValue :=
      fun _ _ => pure (.error .ref)
    let x : Number := .ofNat 4503599627370497
    (builtins.argumentValue 50 "4503599627370497".toList).hold unanswered () =
        (.ok (.ok x), ()) ∧
      x.RoundedTooFar ∧
      ∃ y : Number, (builtins.query 50 "ROUND(4503599627370497)".toList).hold unanswered () =
        (.ok (.ok y), ()) ∧ y.toRat = 4503599627370498 := by
  intro unanswered x
  have value : (builtins.argumentValue 50 "4503599627370497".toList).hold unanswered () =
      (.ok (.ok x), ()) := by decide +kernel
  have rational : x.toRat = (4503599627370497 : ℤ) := Number.toRat_ofNat (by decide +kernel)
  have tooFar : x.RoundedTooFar := by
    refine .inr ⟨4503599627370497, by decide, by norm_num, by norm_num, ?_⟩
    rw [rational]
    norm_num
  obtain ⟨y, nearest, rounds, -, isNearest, -, far, -⟩ :=
    round_nearest (builtins_keeps .round) (by decide) (by decide +kernel) value
  refine ⟨value, tooFar, y, rounds, ?_⟩
  rw [rational] at isNearest
  have same := isNearest.unique (Number.isNearest_self _)
  have positive : x.isNegative = false := by decide +kernel
  rw [far tooFar, same, positive]
  norm_num

end Registry

end Spreadsheet
