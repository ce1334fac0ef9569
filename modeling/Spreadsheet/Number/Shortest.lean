import Spreadsheet.Text.Basic
import Spreadsheet.Number.Basic

/-!
# The shortest decimal that reads back

A number is written with the fewest significant digits from which it can be
read again, and of the decimals with that many digits with the nearest one.
For each number of digits only the two decimals on either side of the exact
value are candidates: if any decimal with that many digits reads back, one of
these two does.  Seventeen digits always suffice.

The digits stand in positional notation from `0.0001` up to `10 ^ 16`, with at
least one digit on each side of the point, and in exponential notation outside.
-/

namespace Spreadsheet.Number

/-- A quotient of naturals as `numerator * 10 ^ power / denominator`. -/
def scaleByTen (power : Int) (numerator denominator : Nat) : Nat × Nat :=
  match power with
  | .ofNat k => (numerator * tenTo k, denominator)
  | .negSucc k => (numerator, denominator * tenTo (k + 1))

/-- The magnitude that `digits * 10 ^ power` is read as. -/
def readBack (digits : Nat) (power : Int) : Nat :=
  let exact := scaleByTen power (digits * unit) 1
  nearest exact.1 exact.2

/-- The power of ten of a magnitude's first significant digit.  No quantum is
below `10 ^ (-330)`, so counting in units of that size loses nothing. -/
def leadingPower (quanta : Nat) : Int :=
  ((Text.ofNat (quanta * tenTo 330 / unit)).length : Int) - 331

/-- A decimal with `count` significant digits that reads back as `quanta`, the
nearest if there are two. -/
def roundTrip? (quanta count : Nat) : Option (Nat × Int) :=
  let power := leadingPower quanta - (count : Int) + 1
  let exact := scaleByTen (-power) quanta unit
  let below := exact.1 / exact.2
  let nearer := roundQuotient exact.1 exact.2
  let farther := if nearer = below then below + 1 else below
  if readBack nearer power = quanta then some (nearer, power)
  else if readBack farther power = quanta then some (farther, power)
  else none

/-- The shortest decimal of a magnitude that is not zero: its digits without
zeros at the end, and the number of them that stand before the point. -/
def shortest (quanta : Nat) : Text × Int :=
  let decimal := ((List.range 17).findSome? fun n => roundTrip? quanta (n + 1)).getD (0, 0)
  let digits := Text.ofNat decimal.1
  (Text.dropRightWhile (· == '0') digits, (digits.length : Int) + decimal.2)

/-- A run of zeros. -/
def zerosText (count : Int) : Text :=
  List.replicate count.toNat '0'

/-- An exponent with its sign and at least two digits. -/
def exponentText (exponent : Int) : Text :=
  let digits := Text.ofNat exponent.natAbs
  ['e', if exponent < 0 then '-' else '+'] ++ zerosText (2 - digits.length) ++ digits

/-- Digits laid out around a point that has `point` of them before it. -/
def layout (digits : Text) (point : Int) : Text :=
  if -4 < point && point ≤ 16 then
    if point ≤ 0 then ['0', '.'] ++ zerosText (-point) ++ digits
    else if (digits.length : Int) ≤ point then
      digits ++ zerosText (point - digits.length) ++ ['.', '0']
    else digits.take point.toNat ++ ['.'] ++ digits.drop point.toNat
  else
    match digits with
    | [] => []
    | [digit] => digit :: exponentText (point - 1)
    | digit :: more => digit :: '.' :: more ++ exponentText (point - 1)

/-- The text that a number is stored as and shown as in messages. -/
def toText : Number → Text
  | .finite negative quanta _ =>
      let magnitude :=
        if quanta = 0 then "0.0".toList
        else
          let decimal := shortest quanta
          layout decimal.1 decimal.2
      if negative then '-' :: magnitude else magnitude
  | .infinite negative => if negative then "-inf".toList else "inf".toList
  | .nan => "nan".toList

end Spreadsheet.Number
