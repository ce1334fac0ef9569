import Spreadsheet.Text.Basic
import Spreadsheet.Number.Integral

/-!
# Numerals on display

A cell shows a result that is within `10 ^ (-9)` of its rounded value as a whole
number, and any other result with up to six decimal places: the exact value is
rounded to six places, a tie going to the even digit, and zeros at the end and
then a bare point are dropped.
-/

namespace Spreadsheet.Number

/-- Results this close to a whole number are shown without a fraction. -/
def wholeTolerance : Number := tenth 9

/-- How many decimal places are shown at most. -/
def shownPlaces : Nat := 6

/-- The digits of a natural number, filled with zeros in front up to a width. -/
def paddedDigits (width n : Nat) : Text :=
  let digits := Text.ofNat n
  List.replicate (width - digits.length) '0' ++ digits

/-- The exact value of a magnitude rounded to six places, with all of them. -/
def fixedText (quanta : Nat) : Text :=
  let scaled := roundQuotient (quanta * tenTo shownPlaces) unit
  Text.ofNat (scaled / tenTo shownPlaces) ++
    ['.'] ++ paddedDigits shownPlaces (scaled % tenTo shownPlaces)

/-- A fixed-point text without zeros at its end and without a bare point. -/
def trimFraction (t : Text) : Text :=
  Text.dropRightWhile (· == '.') (Text.dropRightWhile (· == '0') t)

/-- The numeral shown for a number, or the reason why there is none. -/
def numeral (x : Number) : Except WholeFault Text := do
  let whole ← wholePart (x.abs + half)
  let rounded := (ofNat whole).withSign x.isNegative
  if less (x - rounded).abs wholeTolerance then
    pure (Text.ofInt (signed x.isNegative whole))
  else
    let magnitude := trimFraction (fixedText x.quanta)
    pure (if x.isNegative then '-' :: magnitude else magnitude)

end Spreadsheet.Number
