import Heartbeat.Fault
import Heartbeat.Instance
import Heartbeat.Span

/-!
# Timing

All times of an instance follow from its delay and its interval. `maxRuntime` is the observation
window, five intervals and at least three minutes; `jitterBounds` the range of the wait between two
heartbeats, a third to a half of the interval; `StallPlan.ofInterval` the silence of the role that
stops sending, five intervals and at least a hundred seconds in steps of a tenth of the interval
and at least two seconds. `Timing.ofInstance` collects them.

The stall plan is computed in floating point: `sleepTime` and `interval` are numbers of binary64,
and `StallPlan.step?` and `StallPlan.window?` round to nanoseconds.
-/

set_option autoImplicit false
set_option relaxedAutoImplicit false

namespace Heartbeat

/-! ### The observation window and the jitter -/

/-- The least observation window in seconds. -/
def minObservation : Nat := 180

/-- The number of intervals in the observation window. -/
def ceilingMultiplier : Nat := 5

/-- The greatest counter of 64 bits. -/
def maxCounter : Nat := 18446744073709551615

/-- Five intervals in seconds, without regard to the sign and at most the greatest counter. -/
def fiveIntervals (interval : Int64) : Nat :=
  min (interval.toInt.natAbs * ceilingMultiplier) maxCounter

/-- The observation window of an instance in seconds. -/
def maxRuntime (interval : Int64) : Nat :=
  max (fiveIntervals interval) minObservation

/-- The range of the wait between heartbeats in seconds; there is none without heartbeats. -/
def jitterBounds (interval : Int64) : Option (UInt64 × UInt64) :=
  if interval.toInt ≤ 0 then none
  else some (UInt64.ofNat (interval.toInt.toNat / 3), UInt64.ofNat (interval.toInt.toNat / 2))

/-! ### The stall plan -/

/-- The least length of a stall in seconds. -/
def minStall : Rat := 100

/-- The least length of one step of a stall in seconds. -/
def minStallInterval : Rat := 2

/-- The plan of a stall: its length and the length of one step, in seconds, and the number of
steps. -/
structure StallPlan where
  sleepTime : Rat
  interval : Rat
  repeats : Nat
deriving DecidableEq

namespace StallPlan

/-- The greater of two numbers. -/
def atLeast (least value : Rat) : Rat :=
  if value < least then least else value

/-- The interval and one second more, without regard to the sign and inside the signed range of 64
bits. -/
def nextSecond (interval : Int64) : Nat :=
  (min (interval.toInt + 1) Int64.maxValue.toInt).natAbs

/-- The plan for an interval. -/
def ofInterval (interval : Int64) : StallPlan :=
  let sleepTime := atLeast minStall (Binary64.ofInt (fiveIntervals interval : Int))
  let step := atLeast minStallInterval
    (Binary64.round (Binary64.ofInt (nextSecond interval : Int) / 10))
  { sleepTime := sleepTime
    interval := step
    repeats := min (Binary64.round (sleepTime / step)).floor.toNat maxCounter }

/-- The length of one step. -/
def step? (plan : StallPlan) : Option Span :=
  Span.ofNumber? plan.interval

/-- The length of all steps together. -/
def window? (plan : StallPlan) : Option Span :=
  plan.step?.bind fun step ↦ step.scaled? plan.repeats

end StallPlan

/-! ### All times of an instance -/

/-- The times that an instance runs by. -/
structure Timing where
  maxRuntime : Span
  heartbeatEnabled : Bool
  initialSleep : Option Span
  initialWaitTime : Nat
  jitter : Option (UInt64 × UInt64)
  stall : StallPlan
deriving DecidableEq

/-- The times of an instance. The sleep before the loop is one second shorter than the delay. -/
def Timing.ofInstance (config : Instance) : Timing where
  maxRuntime := Span.ofSeconds (Heartbeat.maxRuntime config.interval)
  heartbeatEnabled := 0 < config.interval.toInt
  initialSleep :=
    if 0 < config.delay.toInt then some (Span.ofSeconds (config.delay.toInt - 1).toNat) else none
  initialWaitTime := config.delay.toInt.toNat
  jitter := jitterBounds config.interval
  stall := StallPlan.ofInterval config.interval

end Heartbeat
