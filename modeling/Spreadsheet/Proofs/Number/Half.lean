import Spreadsheet.Number.Integral
import Spreadsheet.Proofs.Number.Exact

/-!
# Adding one half

A magnitude is rounded to a whole number by adding one half and dropping the fraction, and the
sum is rounded itself.  Mostly this does no harm.  Either the sum has no more than fifty-three
significant bits, or what is rounded away leaves it between the same two whole numbers.  It does
harm for the last magnitude below one half, where the sum is rounded up to one, and for the odd
whole numbers between `2 ^ 52` and `2 ^ 53`, where the sum lies halfway between two whole numbers
and the upper one is even.  There the whole part is one too large.
-/

namespace Spreadsheet.Number

/-- One half in quanta. -/
def halfUnit : Nat := twoTo 1073

/-- A magnitude with one half added to it. -/
def plusHalf (quanta : Nat) : Nat :=
  nearest (quanta + halfUnit) 1

/-- The last magnitude below one half. -/
def beforeHalf : Nat := halfUnit - twoTo 1020

/-- The magnitudes whose sum with one half has too large a whole part. -/
def Misrounded (quanta : Nat) : Prop :=
  quanta = beforeHalf ∨
    ∃ n, n % 2 = 1 ∧ twoTo 52 < n ∧ n < twoTo 53 ∧ quanta = n * unit

theorem representable_beforeHalf : Representable beforeHalf := by
  decide +kernel

theorem unit_eq : unit = 2 * halfUnit := by
  rw [halfUnit, ← twoTo_succ, unit]

theorem unit_pos : 0 < unit :=
  twoTo_pos _

theorem halfUnit_pos : 0 < halfUnit :=
  twoTo_pos _

variable {quanta : Nat}

/-! ## Heights -/

/-- A magnitude and less than its step more stand at the same height. -/
theorem spacing_add {extra : Nat} (divides : spacing quanta ∣ quanta)
    (small : extra < spacing quanta) : spacing (quanta + extra) = spacing quanta := by
  apply Nat.dvd_antisymm ?_ (spacing_dvd_spacing (Nat.le_add_right _ _))
  by_cases none : quanta + extra = 0
  · obtain ⟨rfl, rfl⟩ : quanta = 0 ∧ extra = 0 := by omega
    exact Nat.dvd_refl _
  · have below : quanta + extra < twoTo (quanta.log2 + 1) := by
      obtain ⟨steps, same⟩ := divides
      obtain ⟨more, next⟩ : spacing quanta ∣ twoTo (quanta.log2 + 1) := twoTo_dvd (by omega)
      have less := lt_twoTo_log2 quanta
      rw [next] at less ⊢
      have fewer : steps < more := by
        apply Nat.lt_of_mul_lt_mul_left (a := spacing quanta)
        rwa [← same]
      calc
        quanta + extra < quanta + spacing quanta := Nat.add_lt_add_left small quanta
        _ = spacing quanta * (steps + 1) := by rw [Nat.mul_succ, ← same]
        _ ≤ spacing quanta * more := Nat.mul_le_mul_left _ fewer
    exact twoTo_dvd (Nat.sub_le_sub_right (Nat.le_of_lt_succ (log2_lt none below)) 52)

/-- The step of a magnitude from a power of two on is not shorter than the step of the power, -/
theorem twoTo_dvd_spacing {exponent : Nat} (high : twoTo 52 * twoTo exponent ≤ quanta) :
    twoTo exponent ∣ spacing quanta := by
  rw [← twoTo_add] at high
  have divides := spacing_dvd_spacing high
  rwa [spacing, log2_twoTo, Nat.add_sub_cancel_left] at divides

/-- and below it not longer. -/
theorem spacing_dvd_twoTo {exponent : Nat} (low : quanta < twoTo 53 * twoTo exponent) :
    spacing quanta ∣ twoTo exponent := by
  rw [← twoTo_add] at low
  apply twoTo_dvd
  by_cases none : quanta = 0
  · rw [none]
    exact Nat.zero_le _
  · have height := log2_lt none low
    omega

/-! ## The sum -/

/-- The whole numbers up to `2 ^ 53` are not passed by the sum. -/
theorem mul_unit_le_plusHalf {n : Nat} (small : n ≤ twoTo 53)
    (below : n * unit ≤ quanta + halfUnit) : n * unit ≤ plusHalf quanta := by
  apply le_nearest_of_mul_le Nat.one_pos (spacing_dvd_mul small)
  rwa [Nat.mul_one]

/-- Where one half is less than a step, the sum is a number of steps again. -/
theorem plusHalf_eq_mul (steps : Nat) (divides : quanta = steps * spacing quanta)
    (long : halfUnit < spacing quanta) :
    plusHalf quanta =
      roundQuotient (steps * spacing quanta + halfUnit) (spacing quanta) * spacing quanta := by
  have height := spacing_add ⟨steps, divides.trans (Nat.mul_comm _ _)⟩ long
  rw [plusHalf, nearest, Nat.div_one, height, Nat.one_mul, ← divides]

/-- From `2 ^ 53` on one half is too little to make a difference. -/
theorem plusHalf_of_high (divides : spacing quanta ∣ quanta) (high : twoTo 53 * unit ≤ quanta) :
    unit ∣ quanta ∧ plusHalf quanta = quanta := by
  have half := unit_eq
  have positive := halfUnit_pos
  have double : twoTo 53 * unit = twoTo 52 * twoTo 1075 := by
    rw [unit, ← twoTo_add, ← twoTo_add]
  have twice : twoTo 1075 = 2 * unit := by
    rw [unit, ← twoTo_succ]
  have step : 2 * unit ∣ spacing quanta := twice ▸ twoTo_dvd_spacing (double ▸ high)
  have long : 2 * unit ≤ spacing quanta := Nat.le_of_dvd (spacing_pos quanta) step
  refine ⟨Nat.dvd_trans (Nat.dvd_mul_left unit 2) (Nat.dvd_trans step divides), ?_⟩
  obtain ⟨steps, same⟩ := divides
  rw [Nat.mul_comm] at same
  have small : halfUnit < spacing quanta := by omega
  rw [plusHalf_eq_mul steps same small, roundQuotient_mul_add steps small,
    if_pos (by omega), ← same]

/-- From `2 ^ 52` up to `2 ^ 53` there are only whole numbers, and one half added to them is
rounded to an even one. -/
theorem plusHalf_of_middle (divides : spacing quanta ∣ quanta) (high : twoTo 52 * unit ≤ quanta)
    (low : quanta < twoTo 53 * unit) :
    ∃ n, quanta = n * unit ∧ plusHalf quanta = (n + n % 2) * unit := by
  have half := unit_eq
  have positive := halfUnit_pos
  have step : spacing quanta = unit := by
    rw [unit] at high low ⊢
    exact Nat.dvd_antisymm (spacing_dvd_twoTo low) (twoTo_dvd_spacing high)
  obtain ⟨n, same⟩ := divides
  rw [Nat.mul_comm] at same
  have small : halfUnit < spacing quanta := by omega
  refine ⟨n, step ▸ same, ?_⟩
  rw [plusHalf_eq_mul n same small, roundQuotient_mul_add n small, step, if_neg (by omega),
    if_neg (by omega)]

/-- One half and a fraction smaller than that stay below the next whole number, so the sum is no
higher than the magnitude. -/
theorem log2_add_halfUnit_le (positive : unit ≤ quanta) (fraction : quanta % unit < halfUnit) :
    (quanta + halfUnit).log2 ≤ quanta.log2 := by
  have unitBelow : unit ∣ twoTo (quanta.log2 + 1) := by
    apply twoTo_dvd
    have high := log2_mono positive
    rw [unit, log2_twoTo] at high
    omega
  obtain ⟨more, next⟩ := unitBelow
  have less := lt_twoTo_log2 quanta
  rw [next] at less
  have whole : quanta / unit < more := by
    rw [Nat.div_lt_iff_lt_mul unit_pos, Nat.mul_comm]
    exact less
  have split := Nat.div_add_mod quanta unit
  have half := unit_eq
  have below : quanta + halfUnit < twoTo (quanta.log2 + 1) := by
    rw [next]
    calc
      quanta + halfUnit < unit * (quanta / unit + 1) := by
        rw [Nat.mul_succ]
        omega
      _ ≤ unit * more := Nat.mul_le_mul_left _ whole
  have notZero : quanta + halfUnit ≠ 0 := by
    have := halfUnit_pos
    omega
  exact Nat.le_of_lt_succ (log2_lt notZero below)

/-- One half and a fraction smaller than that, added to a whole number other than zero. -/
theorem plusHalf_of_fraction_lt (divides : spacing quanta ∣ quanta)
    (low : quanta < twoTo 52 * unit) (positive : unit ≤ quanta)
    (fraction : quanta % unit < halfUnit) : plusHalf quanta = quanta + halfUnit := by
  apply nearest_one
  have shorter : spacing (quanta + halfUnit) ∣ spacing quanta :=
    twoTo_dvd (Nat.sub_le_sub_right (log2_add_halfUnit_le positive fraction) 52)
  have lower : spacing quanta ∣ halfUnit := by
    apply spacing_dvd_twoTo
    have same : twoTo 52 * unit = twoTo 53 * twoTo 1073 := by
      rw [unit, ← twoTo_add, ← twoTo_add]
    exact same ▸ low
  exact Nat.dvd_add (Nat.dvd_trans shorter divides) (Nat.dvd_trans shorter lower)

/-- Other fractions and one half are rounded to less than the whole number after the next. -/
theorem plusHalf_of_le_fraction (low : quanta < twoTo 52 * unit)
    (fraction : halfUnit ≤ quanta % unit) : plusHalf quanta / unit = quanta / unit + 1 := by
  have half := unit_eq
  have positive := halfUnit_pos
  have split := Nat.div_add_mod' quanta unit
  have small := Nat.mod_lt quanta unit_pos
  have whole : quanta / unit < twoTo 52 := (Nat.div_lt_iff_lt_mul unit_pos).mpr low
  have lower : (quanta / unit + 1) * unit ≤ plusHalf quanta := by
    apply mul_unit_le_plusHalf
    · exact Nat.le_trans whole (twoTo_le (by decide))
    · rw [Nat.add_mul]
      omega
  have step : spacing (quanta + halfUnit) ≤ unit := by
    apply Nat.le_of_dvd unit_pos
    have double : twoTo 53 * unit = 2 * (twoTo 52 * unit) := by
      rw [← Nat.mul_assoc, ← twoTo_succ]
    have below : quanta + halfUnit < twoTo 53 * unit := by
      have several : unit ≤ twoTo 52 * unit := Nat.le_mul_of_pos_left unit (twoTo_pos 52)
      omega
    rw [unit] at below ⊢
    exact spacing_dvd_twoTo below
  have upper : plusHalf quanta < (quanta / unit + 2) * unit := by
    have near := nearest_near (quanta + halfUnit)
    rw [Nat.add_mul, plusHalf]
    omega
  exact Nat.div_eq_of_lt_le lower upper

/-- Between the other magnitudes below one half and one half itself there is room for the last
one. -/
theorem add_le_halfUnit (divides : spacing quanta ∣ quanta) (low : quanta < halfUnit)
    (other : quanta ≠ beforeHalf) : quanta + twoTo 1021 ≤ halfUnit := by
  have steps : halfUnit = twoTo 53 * twoTo 1020 := by rw [halfUnit, ← twoTo_add]
  have double : twoTo 1021 = 2 * twoTo 1020 := twoTo_succ 1020
  have positive := twoTo_pos 1020
  apply Nat.le_of_not_lt
  intro close
  have long : twoTo 1020 ∣ spacing quanta := by
    apply twoTo_dvd_spacing
    have halved : twoTo 53 = 2 * twoTo 52 := twoTo_succ 52
    have several : 2 * twoTo 1020 ≤ twoTo 52 * twoTo 1020 :=
      Nat.mul_le_mul_right _ (by decide)
    rw [halved, Nat.mul_assoc] at steps
    omega
  obtain ⟨count, same⟩ := Nat.dvd_trans long divides
  rw [Nat.mul_comm] at same
  have fewer : count < twoTo 53 := by
    apply Nat.lt_of_mul_lt_mul_right (a := twoTo 1020)
    omega
  have more : twoTo 53 < count + 2 := by
    apply Nat.lt_of_mul_lt_mul_right (a := twoTo 1020)
    rw [Nat.add_mul]
    omega
  have last : (count + 1) * twoTo 1020 = halfUnit := by
    rw [steps, show twoTo 53 = count + 1 by omega]
  rw [Nat.add_mul] at last
  apply other
  rw [beforeHalf]
  omega

/-- Below one half the sum stays below one, the last magnitude excepted. -/
theorem plusHalf_lt_unit (divides : spacing quanta ∣ quanta) (low : quanta < halfUnit)
    (other : quanta ≠ beforeHalf) : plusHalf quanta < unit := by
  have few := add_le_halfUnit divides low other
  have half := unit_eq
  have positive := twoTo_pos 1021
  have pred : (twoTo 53 - 1) * twoTo 1021 = unit - twoTo 1021 := by
    rw [Nat.sub_mul, Nat.one_mul, ← twoTo_add, unit]
  have bound : plusHalf quanta ≤ (twoTo 53 - 1) * twoTo 1021 := by
    apply nearest_le_of_le_mul Nat.one_pos (spacing_dvd_mul (Nat.sub_le _ _))
    rw [Nat.mul_one, pred]
    omega
  have := unit_pos
  omega

theorem add_halfUnit_div (n : Nat) : (n * unit + halfUnit) / unit = n := by
  have half := unit_eq
  have positive := halfUnit_pos
  rw [Nat.add_comm, Nat.add_mul_div_right _ _ unit_pos, Nat.div_eq_of_lt (by omega), Nat.zero_add]

theorem even_of_not_misrounded {n : Nat} (high : twoTo 52 * unit ≤ n * unit)
    (low : n * unit < twoTo 53 * unit) (regular : ¬ Misrounded (n * unit)) : n % 2 = 0 := by
  rcases Nat.mod_two_eq_zero_or_one n with even | odd
  · exact even
  · have least : twoTo 52 ≤ n := Nat.le_of_mul_le_mul_right high unit_pos
    have most : n < twoTo 53 := Nat.lt_of_mul_lt_mul_right low
    have notLeast : twoTo 52 ≠ n := by
      intro least
      rw [← least] at odd
      exact absurd odd (by decide)
    exact absurd (.inr ⟨n, odd, Nat.lt_of_le_of_ne least notLeast, most, rfl⟩) regular

/-- The sum has the whole part of the exact sum, -/
theorem plusHalf_div_of_not_misrounded (divides : spacing quanta ∣ quanta)
    (regular : ¬ Misrounded quanta) :
    plusHalf quanta / unit = (quanta + halfUnit) / unit := by
  have half := unit_eq
  have positive := halfUnit_pos
  rcases Nat.lt_or_ge quanta (twoTo 52 * unit) with low | high
  · -- Here there are fractions.
    rcases Nat.lt_or_ge (quanta % unit) halfUnit with fraction | fraction
    · rcases Nat.lt_or_ge quanta unit with below | above
      · rw [Nat.mod_eq_of_lt below] at fraction
        have other : quanta ≠ beforeHalf := fun same => regular (.inl same)
        rw [Nat.div_eq_of_lt (plusHalf_lt_unit divides fraction other),
          Nat.div_eq_of_lt (by omega)]
      · rw [plusHalf_of_fraction_lt divides low above fraction]
    · rw [plusHalf_of_le_fraction low fraction]
      have split := Nat.div_add_mod' quanta unit
      have small := Nat.mod_lt quanta unit_pos
      refine (Nat.div_eq_of_lt_le ?_ ?_).symm
      · rw [Nat.add_mul]
        omega
      · rw [Nat.add_mul, Nat.add_mul]
        omega
  · -- Here there are whole numbers only.
    rcases Nat.lt_or_ge quanta (twoTo 53 * unit) with low | higher
    · obtain ⟨n, same, sum⟩ := plusHalf_of_middle divides high low
      rw [same] at high low regular
      rw [sum, even_of_not_misrounded high low regular, Nat.add_zero,
        Nat.mul_div_cancel n unit_pos, same, add_halfUnit_div]
    · obtain ⟨whole, same⟩ := plusHalf_of_high divides higher
      obtain ⟨n, multiple⟩ := whole
      rw [Nat.mul_comm] at multiple
      rw [same, multiple, Nat.mul_div_cancel n unit_pos, add_halfUnit_div]

/-- and one more for the magnitudes that are misrounded. -/
theorem plusHalf_div_of_misrounded (misrounded : Misrounded quanta) :
    plusHalf quanta / unit = (quanta + halfUnit) / unit + 1 := by
  rcases misrounded with last | ⟨n, odd, high, low, whole⟩
  · rw [last]
    decide +kernel
  · rw [whole]
    have divides : spacing (n * unit) ∣ n * unit := spacing_dvd_mul (Nat.le_of_lt low)
    obtain ⟨n', same, sum⟩ := plusHalf_of_middle divides
      (Nat.mul_le_mul_right _ (Nat.le_of_lt high)) (Nat.mul_lt_mul_of_pos_right low unit_pos)
    have known : n = n' := Nat.eq_of_mul_eq_mul_right unit_pos same
    rw [sum, ← known, odd, Nat.mul_div_cancel _ unit_pos, add_halfUnit_div]

/-! ## Rounded numbers -/

/-- Adding one half does not take a magnitude beyond the finite ones. -/
theorem plusHalf_lt_beyondFinite (representable : Representable quanta) :
    plusHalf quanta < beyondFinite := by
  rcases Nat.lt_or_ge quanta (twoTo 53 * unit) with low | high
  · have half := unit_eq
    have several : unit ≤ twoTo 53 * unit := Nat.le_mul_of_pos_left unit (twoTo_pos 53)
    have double : twoTo 1128 = 2 * (twoTo 53 * unit) := by
      rw [unit, ← twoTo_add, ← twoTo_succ]
    have divides : spacing (twoTo 1128) ∣ twoTo 1128 := by
      rw [spacing, log2_twoTo]
      exact twoTo_dvd (Nat.sub_le _ _)
    have bound : plusHalf quanta ≤ twoTo 1128 := by
      apply nearest_le_of_le_mul Nat.one_pos divides
      omega
    exact Nat.lt_of_le_of_lt bound (twoTo_lt (by decide))
  · rw [(plusHalf_of_high representable.2 high).2]
    exact representable.1

theorem representable_floor (representable : Representable quanta) :
    Representable (quanta / unit * unit) := by
  refine ⟨Nat.lt_of_le_of_lt (Nat.div_mul_le_self _ _) representable.1, ?_⟩
  rcases Nat.lt_or_ge quanta (twoTo 53 * unit) with low | high
  · exact spacing_dvd_mul (Nat.le_of_lt ((Nat.div_lt_iff_lt_mul unit_pos).mpr low))
  · rw [Nat.div_mul_cancel (plusHalf_of_high representable.2 high).1]
    exact representable.2

theorem exists_half_eq : ∃ representable, half = .finite false halfUnit representable := by
  have divides : spacing halfUnit ∣ halfUnit := by
    rw [spacing, halfUnit, log2_twoTo]
    exact twoTo_dvd (Nat.sub_le _ _)
  have rounded : nearest unit 2 = halfUnit := by
    rw [unit_eq, Nat.mul_comm]
    exact nearest_mul Nat.two_pos divides
  have fits : halfUnit < beyondFinite := twoTo_lt (by decide)
  refine ⟨⟨fits, divides⟩, ?_⟩
  simp only [half, ofRatio, rounded, dif_pos fits]

/-- The whole part of the sum, which is a number without rounding. -/
theorem exists_ofNat_plusHalf_eq (representable : Representable quanta) :
    ∃ representable', ofNat (plusHalf quanta / unit) =
      .finite false (plusHalf quanta / unit * unit) representable' :=
  ⟨_, ofNat_eq (representable_floor (representable_nearest
    (plusHalf_lt_beyondFinite representable)))⟩

variable (negative : Bool) (representable : Representable quanta)

theorem exists_abs_add_half_eq :
    ∃ representable', (finite negative quanta representable).abs + half =
      .finite false (plusHalf quanta) representable' := by
  have fits := plusHalf_lt_beyondFinite representable
  obtain ⟨halfRepresentable, isHalf⟩ := exists_half_eq
  refine ⟨representable_nearest fits, ?_⟩
  rw [isHalf]
  change add (.finite false quanta representable) (.finite false halfUnit halfRepresentable) = _
  have total : signed false quanta + signed false halfUnit = (quanta + halfUnit : Nat) := rfl
  have positive := halfUnit_pos
  simp only [add, total]
  rw [if_neg (by omega), Int.natAbs_natCast, decide_eq_false (by omega), ofRatio]
  exact dif_pos fits

theorem exists_roundHalfAway_eq :
    ∃ representable', roundHalfAway (.finite negative quanta representable) =
      .ok (.finite negative (plusHalf quanta / unit * unit) representable') := by
  obtain ⟨_, sum⟩ := exists_abs_add_half_eq negative representable
  obtain ⟨representable', whole⟩ := exists_ofNat_plusHalf_eq representable
  refine ⟨representable', ?_⟩
  rw [roundHalfAway, sum]
  change Except.ok (withSign negative (ofNat (plusHalf quanta / unit))) = _
  rw [whole]
  rfl

end Spreadsheet.Number
