import Spreadsheet.Function.Call
import Spreadsheet.Number.Power

/-!
# Rounding to decimal places

A value is rounded by scaling it with a power of ten, rounding to a whole
number, and scaling back.  The number of places is any number.
-/

namespace Spreadsheet.Function

/-- The value rounded to a number of decimal places. -/
def roundTo (value places : Number) : Except RoundingFault Number :=
  match Number.powerOfTen? places with
  | none => .error .powerTooLarge
  | some factor =>
      match (value * factor).roundHalfAway with
      | .error fault => .error (.noWhole fault)
      | .ok rounded =>
          if factor.isZero then .error .powerIsZero else .ok (rounded / factor)

/-- The rounded value, or the failure for its fault. -/
def rounded (value places : Number) : Query Number :=
  match roundTo value places with
  | .ok result => .done result
  | .error fault => .error (.rounding fault)

/-- The first argument rounded to as many places as the second says, none when
there is no second. -/
def round : FunctionBody := fun call =>
  match call.arguments with
  | [value] => do
      let number ← call.evaluate value
      rounded number (.zero false)
  | [value, places] => do
      let number ← call.evaluate value
      let digits ← call.evaluate places
      rounded number digits
  | arguments => .error (.wrongCount "ROUND".toList 1 2 arguments.length)

end Spreadsheet.Function
