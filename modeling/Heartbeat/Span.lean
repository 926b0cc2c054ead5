import Heartbeat.Binary64

/-!
# Spans of time

A `Span` is a whole number of nanoseconds. Spans come from whole seconds (`Span.ofSeconds`) or from
a number of seconds in floating point (`Span.ofNumber?`): the nearest nanosecond, a half going to
the even one, and no span at all for a negative number or for 2^64 seconds and more. `Span.number`
is the way back and `Span.scaled?` the product with a counter, both rounded as binary64 rounds
them. `Span.text` is the short form with a unit, as messages show it.
-/

set_option autoImplicit false
set_option relaxedAutoImplicit false

namespace Heartbeat

/-- A span of time in nanoseconds. -/
structure Span where
  nanos : Nat
deriving DecidableEq, Inhabited

namespace Span

/-- The nanoseconds of a second. -/
def perSecond : Nat := 1000000000

/-- No time at all. -/
def zero : Span := ⟨0⟩

/-- A whole number of seconds. -/
def ofSeconds (seconds : Nat) : Span :=
  ⟨seconds * perSecond⟩

/-- A whole number of milliseconds. -/
def ofMillis (millis : Nat) : Span :=
  ⟨millis * 1000000⟩

/-- Seconds and nanoseconds together, if the seconds with those in the nanoseconds fit 64 bits. -/
def ofParts? (seconds nanos : Nat) : Option Span :=
  if seconds + nanos / perSecond < UInt64.size then some ⟨seconds * perSecond + nanos⟩ else none

/-- The whole seconds of a span. -/
def seconds (span : Span) : Nat :=
  span.nanos / perSecond

/-- One span is not longer than another. -/
instance : LE Span := ⟨fun left right ↦ left.nanos ≤ right.nanos⟩

/-- One span is shorter than another. -/
instance : LT Span := ⟨fun left right ↦ left.nanos < right.nanos⟩

instance (left right : Span) : Decidable (left ≤ right) :=
  inferInstanceAs (Decidable (left.nanos ≤ right.nanos))

instance (left right : Span) : Decidable (left < right) :=
  inferInstanceAs (Decidable (left.nanos < right.nanos))

/-- Two spans one after the other. -/
instance : Add Span := ⟨fun left right ↦ ⟨left.nanos + right.nanos⟩⟩

/-- What is left of a span without another one, and no time if the other one is longer. -/
instance : Sub Span := ⟨fun left right ↦ ⟨left.nanos - right.nanos⟩⟩

theorem le_iff {left right : Span} : left ≤ right ↔ left.nanos ≤ right.nanos := Iff.rfl

theorem lt_iff {left right : Span} : left < right ↔ left.nanos < right.nanos := Iff.rfl

@[simp]
theorem nanos_add (left right : Span) : (left + right).nanos = left.nanos + right.nanos := rfl

@[simp]
theorem nanos_sub (left right : Span) : (left - right).nanos = left.nanos - right.nanos := rfl

/-- The span nearest to a number of seconds, if the number is neither negative nor 2^64 or more. -/
def ofNumber? (seconds : Rat) : Option Span :=
  if seconds < 0 ∨ (18446744073709551616 : Rat) ≤ seconds then none
  else some ⟨(Binary64.roundEven (seconds * (perSecond : Rat))).toNat⟩

/-- The seconds of a span in floating point: the whole seconds and the part of a second are rounded
one by one, and then their sum. -/
def number (span : Span) : Rat :=
  let whole := Binary64.ofInt (span.seconds : Int)
  let part := Binary64.round (((span.nanos % perSecond : Nat) : Rat) / (perSecond : Rat))
  Binary64.round (whole + part)

/-- A span as many times as a counter says, computed in floating point. -/
def scaled? (span : Span) (count : Nat) : Option Span :=
  ofNumber? (Binary64.round (Binary64.ofInt (count : Int) * span.number))

/-- A count of units and a fraction of `scale` parts, without zeros at the end of the fraction. -/
def decimalText (whole fraction places : Nat) (unit : String) : String :=
  let digits := Nat.toDigits 10 fraction
  let padded := List.replicate (places - digits.length) '0' ++ digits
  let kept := (padded.reverse.dropWhile (· == '0')).reverse
  let point := if kept = [] then "" else "." ++ String.ofList kept
  toString whole ++ point ++ unit

/-- A span in the largest unit of seconds, milliseconds, microseconds and nanoseconds in which it
has a whole part. -/
def text (span : Span) : String :=
  if perSecond ≤ span.nanos then
    decimalText (span.nanos / perSecond) (span.nanos % perSecond) 9 "s"
  else if 1000000 ≤ span.nanos then
    decimalText (span.nanos / 1000000) (span.nanos % 1000000) 6 "ms"
  else if 1000 ≤ span.nanos then
    decimalText (span.nanos / 1000) (span.nanos % 1000) 3 "µs"
  else toString span.nanos ++ "ns"

end Span

end Heartbeat
