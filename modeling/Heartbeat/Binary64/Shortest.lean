import Heartbeat.Binary64

/-!
# The shortest decimal of a number

A number of binary64 is written with the fewest decimal digits that read back as the same number;
among those, with the ones nearest to it. `Binary64.shortest` finds the digits: a grid of one
significant digit, then of two and so on, holds at most two candidates, the neighbours of the
number on that grid, and the first grid with a candidate that rounds to the number is taken.
-/

set_option autoImplicit false
set_option relaxedAutoImplicit false

namespace Heartbeat.Binary64

/-- The power of ten with an integer exponent. -/
def tenPow (exponent : Int) : Rat :=
  if 0 ≤ exponent then ((Nat.pow 10 exponent.toNat : Nat) : Rat)
  else 1 / ((Nat.pow 10 (-exponent).toNat : Nat) : Rat)

/-- A decimal: an integer times a power of ten. -/
structure Decimal where
  coefficient : Nat
  exponent : Int

/-- The rational that a decimal stands for. -/
def Decimal.value (d : Decimal) : Rat :=
  (d.coefficient : Rat) * tenPow d.exponent

/-- How many times a positive value below one has to be multiplied by ten to reach one, up to the
given number of times. -/
def stepsToOne : Nat → Rat → Nat
  | 0, _ => 0
  | fuel + 1, x => if 1 ≤ x then 0 else stepsToOne fuel (x * 10) + 1

/-- The exponent of the greatest power of ten that is not above a positive value. -/
def decimalExponent (x : Rat) : Int :=
  if 1 ≤ x then ((Nat.toDigits 10 x.floor.toNat).length : Int) - 1
  else -(stepsToOne 400 x : Int)

/-- The decimal with the given number of significant digits that is nearest to a positive number
and reads back as it; of two that are equally near, the even one. -/
def readable? (x : Rat) (digits : Nat) : Option Decimal :=
  let exponent := decimalExponent x + 1 - (digits : Int)
  let unit := tenPow exponent
  let below : Decimal := ⟨(x / unit).floor.toNat, exponent⟩
  let above : Decimal := ⟨below.coefficient + 1, exponent⟩
  let goodBelow := round below.value = x
  let goodAbove := round above.value = x
  if goodBelow ∧ goodAbove then
    some (if roundEven (x / unit) = (below.coefficient : Int) then below else above)
  else if goodBelow then some below
  else if goodAbove then some above
  else none

/-- The shortest decimal of a positive number of the format. Seventeen digits always suffice. -/
def shortest (x : Rat) : Decimal :=
  ((List.range 17).findSome? fun n ↦ readable? x (n + 1)).getD ⟨0, 0⟩

/-- The same decimal without zeros at the end of its coefficient. -/
def Decimal.stripped (d : Decimal) : Decimal :=
  let digits := (Nat.toDigits 10 d.coefficient).reverse
  let zeros := (digits.takeWhile (· == '0')).length
  ⟨d.coefficient / Nat.pow 10 zeros, d.exponent + (zeros : Int)⟩

end Heartbeat.Binary64
