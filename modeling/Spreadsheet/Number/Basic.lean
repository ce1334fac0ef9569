import Spreadsheet.Number.Rounding

/-!
# Double-precision numbers

A cell's value is a double-precision number: a finite one with a sign and a
representable magnitude, an infinity, or the one NaN.  Every operation is the
exact operation on quanta followed by one rounding, `ofRatio`, so the laws of
arithmetic come down to laws of natural numbers and of `nearest`.
-/

namespace Spreadsheet

open Number (Representable representable_zero nearest beyondFinite representable_nearest unit tenTo)

/-- A double-precision number.  The two zeros differ in their sign. -/
inductive Number where
  | finite (negative : Bool) (quanta : Nat) (representable : Representable quanta)
  | infinite (negative : Bool)
  | nan
  deriving DecidableEq

namespace Number

/-- The zero of a sign. -/
def zero (negative : Bool) : Number :=
  .finite negative 0 representable_zero

/-- The number nearest to a quotient of quanta, infinite when none that is
finite is near enough. -/
def ofRatio (negative : Bool) (numerator denominator : Nat) : Number :=
  let quanta := nearest numerator denominator
  if fits : quanta < beyondFinite then
    .finite negative quanta (representable_nearest fits)
  else .infinite negative

/-- The number nearest to a natural number. -/
def ofNat (n : Nat) : Number :=
  ofRatio false (n * unit) 1

/-- The number nearest to a power of one tenth. -/
def tenth (places : Nat) : Number :=
  ofRatio false unit (tenTo places)

/-- One half. -/
def half : Number :=
  ofRatio false unit 2

/-- A count of quanta with its sign. -/
def signed (negative : Bool) (quanta : Nat) : Int :=
  if negative then -(quanta : Int) else quanta

/-- Whether the number carries a minus sign. -/
def isNegative : Number → Bool
  | .finite negative _ _ => negative
  | .infinite negative => negative
  | .nan => false

/-- The magnitude of a finite number in quanta. -/
def quanta : Number → Nat
  | .finite _ quanta _ => quanta
  | _ => 0

/-- Neither infinite nor NaN. -/
def isFinite : Number → Bool
  | .finite _ _ _ => true
  | _ => false

/-- One of the two zeros. -/
def isZero : Number → Bool
  | .finite _ quanta _ => quanta == 0
  | _ => false

/-- The number with the given sign and its own magnitude. -/
def withSign (negative : Bool) : Number → Number
  | .finite _ quanta representable => .finite negative quanta representable
  | .infinite _ => .infinite negative
  | .nan => .nan

/-- The magnitude of a number. -/
def abs (x : Number) : Number :=
  x.withSign false

/-- The number with the other sign. -/
def neg (x : Number) : Number :=
  x.withSign (!x.isNegative)

/-- The rounded sum.  An exact sum of zero is negative only when both summands
are. -/
def add : Number → Number → Number
  | .nan, _ => .nan
  | _, .nan => .nan
  | .infinite s, .infinite t => if s = t then .infinite s else .nan
  | .infinite s, .finite _ _ _ => .infinite s
  | .finite _ _ _, .infinite t => .infinite t
  | .finite s a _, .finite t b _ =>
      let total := signed s a + signed t b
      if total = 0 then zero (s && t) else ofRatio (total < 0) total.natAbs 1

/-- The rounded difference. -/
def sub (x y : Number) : Number :=
  add x (neg y)

/-- The rounded product. -/
def mul : Number → Number → Number
  | .nan, _ => .nan
  | _, .nan => .nan
  | .infinite s, .infinite t => .infinite (s != t)
  | .infinite s, .finite t b _ => if b = 0 then .nan else .infinite (s != t)
  | .finite s a _, .infinite t => if a = 0 then .nan else .infinite (s != t)
  | .finite s a _, .finite t b _ => ofRatio (s != t) (a * b) unit

/-- The rounded quotient. -/
def div : Number → Number → Number
  | .nan, _ => .nan
  | _, .nan => .nan
  | .infinite _, .infinite _ => .nan
  | .infinite s, .finite t _ _ => .infinite (s != t)
  | .finite s _ _, .infinite t => zero (s != t)
  | .finite s a _, .finite t b _ =>
      if b = 0 then
        if a = 0 then .nan else .infinite (s != t)
      else ofRatio (s != t) (a * unit) b

/-- Strictly smaller; NaN is neither smaller nor larger than anything, and the
zeros are equal. -/
def less : Number → Number → Bool
  | .nan, _ => false
  | _, .nan => false
  | .infinite s, .infinite t => s && !t
  | .infinite s, .finite _ _ _ => s
  | .finite _ _ _, .infinite t => !t
  | .finite s a _, .finite t b _ => signed s a < signed t b

instance : Neg Number := ⟨neg⟩
instance : Add Number := ⟨add⟩
instance : Sub Number := ⟨sub⟩
instance : Mul Number := ⟨mul⟩
instance : Div Number := ⟨div⟩
instance : Inhabited Number := ⟨zero false⟩

/-- Magnitudes below this bound count as zero, in a divisor and in a
condition. -/
def epsilon : Number := tenth 12

/-- Whether the number counts as zero. -/
def isNegligible (x : Number) : Bool :=
  less x.abs epsilon

/-- Whether the number is certainly not zero. -/
def isSignificant (x : Number) : Bool :=
  less epsilon x.abs

/-- The earlier number unless the later is strictly smaller. -/
def earlierMin (earlier later : Number) : Number :=
  if less later earlier then later else earlier

/-- The earlier number unless the later is strictly larger. -/
def earlierMax (earlier later : Number) : Number :=
  if less earlier later then later else earlier

end Number

end Spreadsheet
