import Spreadsheet.Number.Bits

/-!
# Powers of ten

Rounding to decimal places multiplies by a power of ten with any
double-precision exponent.  The zeroth power is one; every other power is the
platform's, which is only almost always the nearest number, so it is taken as it
comes.
-/

namespace Spreadsheet.Number

/-- One. -/
def one : Number := ofNat 1

/-- The platform's power of ten. -/
def platformPowerOfTen (exponent : Number) : Number :=
  let power := Float.pow 10.0 (Float.ofBits (UInt64.ofNat exponent.toBits))
  ofBits power.toBits.toNat

/-- Ten to the power of `exponent`, or nothing when a finite exponent takes the
power beyond the finite numbers. -/
def powerOfTen? (exponent : Number) : Option Number :=
  if exponent.isZero then some one
  else
    let power := platformPowerOfTen exponent
    if exponent.isFinite && !power.isFinite then none else some power

end Spreadsheet.Number
