import Spreadsheet.Text.Uppercase
import Spreadsheet.Number.Basic

/-!
# Reading decimal numbers

A decimal numeral is a run of digits with at most one point in or around it and
at least one digit, and then perhaps an exponent: `e` or `E`, perhaps a sign,
and at least one digit.  It may have any length; its value is the number nearest
to the exact decimal.  A signed number is a numeral, or the word for an infinity
or for NaN, after at most one sign.
-/

namespace Spreadsheet

open Text (isDigit digitsValue)
open Number (unit tenTo)

/-- The exact value `mantissa * 10 ^ exponent`. -/
structure Decimal where
  mantissa : Nat
  exponent : Int
  deriving DecidableEq

namespace Decimal

/-- The number nearest to the decimal.  A non-zero decimal with an exponent
above 400 lies beyond all finite numbers, and one whose exponent is 401 or more
below its mantissa's bit length lies below half a quantum, so neither power has
to be worked out. -/
def toNumber (negative : Bool) (d : Decimal) : Number :=
  if d.mantissa = 0 then .zero negative
  else if 400 < d.exponent then .infinite negative
  else if d.exponent < -((d.mantissa.log2 : Int) + 401) then .zero negative
  else
    match d.exponent with
    | .ofNat e => .ofRatio negative (d.mantissa * tenTo e * unit) 1
    | .negSucc e => .ofRatio negative (d.mantissa * unit) (tenTo (e + 1))

/-- The value of a non-empty run of digits and nothing else. -/
def digits? (t : Text) : Option Nat :=
  if t.isEmpty || !t.all isDigit then none else some (digitsValue t)

/-- What stands behind the digits: nothing, or a whole exponent. -/
def exponent? : Text → Option Int
  | [] => some 0
  | mark :: rest =>
      if mark = 'e' || mark = 'E' then
        match rest with
        | '-' :: digits => (digits? digits).map fun n => -(n : Int)
        | '+' :: digits => (digits? digits).map fun n => (n : Int)
        | digits => (digits? digits).map fun n => (n : Int)
      else none

/-- The digits behind the point, if the text starts with one, and the rest. -/
def fraction : Text → Text × Text
  | '.' :: rest => (rest.takeWhile isDigit, rest.dropWhile isDigit)
  | rest => ([], rest)

/-- The decimal that a numeral without a sign writes. -/
def ofText? (t : Text) : Option Decimal :=
  let whole := t.takeWhile isDigit
  let (decimals, rest) := fraction (t.dropWhile isDigit)
  if (whole ++ decimals).isEmpty then none
  else (exponent? rest).map fun e =>
    { mantissa := digitsValue (whole ++ decimals), exponent := e - decimals.length }

end Decimal

namespace Number

/-- The number that a text without a sign writes: a numeral or a word. -/
def ofUnsigned? (negative : Bool) (t : Text) : Option Number :=
  let word := t.map Text.small
  if word = "inf".toList || word = "infinity".toList then some (.infinite negative)
  else if word = "nan".toList then some .nan
  else (Decimal.ofText? t).map (Decimal.toNumber negative)

/-- The number that a text writes, after at most one sign. -/
def ofText? : Text → Option Number
  | '-' :: rest => ofUnsigned? true rest
  | '+' :: rest => ofUnsigned? false rest
  | t => ofUnsigned? false t

end Number

end Spreadsheet
