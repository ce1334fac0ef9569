import Spreadsheet.Number.Basic

/-!
# The binary64 interchange format

A number as sixty-four bits: the sign, eleven bits of exponent and fifty-two
bits of fraction.  An exponent field of zero leaves the fraction as the count of
quanta; a field `f` from one to 2046 puts a hidden bit before the fraction and
`f - 1` zeros behind it; the field 2047 holds the infinities and the NaNs.
-/

namespace Spreadsheet.Number

/-- The bit of the sign. -/
def signBit (negative : Bool) : Nat :=
  if negative then twoTo 63 else 0

/-- The sixty-four bits of a number; the NaN is the quiet one without a sign. -/
def toBits : Number → Nat
  | .finite negative quanta _ =>
      if quanta < twoTo 52 then signBit negative + quanta
      else
        let shift := quanta.log2 - 52
        signBit negative + (shift + 1) * twoTo 52 + (quanta / twoTo shift - twoTo 52)
  | .infinite negative => signBit negative + 2047 * twoTo 52
  | .nan => 2047 * twoTo 52 + twoTo 51

/-- The number that sixty-four bits stand for. -/
def ofBits (bits : Nat) : Number :=
  let negative := bits / twoTo 63 % 2 == 1
  let field := bits / twoTo 52 % twoTo 11
  let fraction := bits % twoTo 52
  if field = 2047 then
    if fraction = 0 then .infinite negative else .nan
  else if field = 0 then ofRatio negative fraction 1
  else ofRatio negative ((twoTo 52 + fraction) * twoTo (field - 1)) 1

end Spreadsheet.Number
