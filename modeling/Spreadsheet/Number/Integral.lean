import Spreadsheet.Number.Basic

/-!
# Rounding to whole numbers

A magnitude is rounded by adding one half, as a double-precision sum, and
dropping the fraction.  Only a finite sum has a whole part, so the infinities
and NaN are faults with a wording of their own.
-/

namespace Spreadsheet.Number

/-- Why a number has no whole part. -/
inductive WholeFault where
  | infinite
  | nan
  deriving DecidableEq

/-- The wording of the fault. -/
def WholeFault.message : WholeFault → String
  | .infinite => "cannot convert float infinity to integer"
  | .nan => "cannot convert float NaN to integer"

/-- The whole part of a magnitude. -/
def wholePart : Number → Except WholeFault Nat
  | .finite _ quanta _ => .ok (quanta / unit)
  | .infinite _ => .error .infinite
  | .nan => .error .nan

/-- The whole number nearest to `x` by way of the sum of its magnitude and one
half, with the sign of `x`. -/
def roundHalfAway (x : Number) : Except WholeFault Number := do
  let whole ← wholePart (x.abs + half)
  pure ((ofNat whole).withSign x.isNegative)

end Spreadsheet.Number
