/-!
# Numbers of binary64

Times are computed in floating point, and a number of the format binary64 is held here as the
rational it stands for. `Binary64.round` takes any rational to the nearest number of the format,
a half going to the even neighbour; an operation of the format is the exact operation followed by
`round`. `Binary64.spacing` is the distance of neighbouring numbers around a value: 53 bits from
its leading bit, and never less than the least positive number.

`Binary64.bits` is the encoding of a number in 64 bits and `Binary64.tenths` its text with one
place after the point. Values past the largest finite number do not arise from spans and counters
of 64 bits, so the format's infinities have no counterpart here.
-/

set_option autoImplicit false
set_option relaxedAutoImplicit false

namespace Heartbeat.Binary64

/-- The power of two with an integer exponent. -/
def twoPow (exponent : Int) : Rat :=
  if 0 ≤ exponent then ((Nat.pow 2 exponent.toNat : Nat) : Rat)
  else 1 / ((Nat.pow 2 (-exponent).toNat : Nat) : Rat)

/-- The nearest integer; a half goes to the even neighbour. -/
def roundEven (x : Rat) : Int :=
  let low := x.floor
  let rest := x - (low : Rat)
  if rest < 1 / 2 then low
  else if 1 / 2 < rest then low + 1
  else if low % 2 = 0 then low
  else low + 1

/-- The nearest integer; a half goes away from zero. The value is not negative. -/
def roundHalfUp (x : Rat) : Nat :=
  (x + 1 / 2).floor.toNat

/-- The distance of a value from zero. -/
def magnitude (x : Rat) : Rat :=
  if x < 0 then -x else x

/-- The exponent of the greatest power of two that is not above the magnitude of a value other than
zero. The bit lengths of numerator and denominator give it up to one. -/
def leadingExponent (x : Rat) : Int :=
  let guess : Int := (x.num.natAbs.log2 : Int) - (x.den.log2 : Int)
  if twoPow guess ≤ magnitude x then guess else guess - 1

/-- The exponent of the last bit that the format keeps of a value. -/
def lastExponent (x : Rat) : Int :=
  max (leadingExponent x - 52) (-1074)

/-- The distance of neighbouring numbers of the format around a value. -/
def spacing (x : Rat) : Rat :=
  twoPow (lastExponent x)

/-- The number of the format nearest to a value. -/
def round (x : Rat) : Rat :=
  (roundEven (x / spacing x) : Rat) * spacing x

/-- The number of the format nearest to an integer. -/
def ofInt (n : Int) : Rat :=
  round (n : Rat)

/-- The encoding of a number of the format: sign, biased exponent and fraction. -/
def bits (x : Rat) : UInt64 :=
  let sign : Nat := if x < 0 then 9223372036854775808 else 0
  let mantissa := (roundEven (magnitude x / spacing x)).toNat
  let hidden := 4503599627370496
  if mantissa < hidden then UInt64.ofNat (sign + mantissa)
  else UInt64.ofNat (sign + (lastExponent x + 1075).toNat * hidden + (mantissa - hidden))

/-- A number with one place after the point, a tie going to the even digit. -/
def tenths (x : Rat) : String :=
  let scaled := (roundEven (magnitude x * 10)).toNat
  (if x < 0 then "-" else "") ++ toString (scaled / 10) ++ "." ++ toString (scaled % 10)

end Heartbeat.Binary64
