import Heartbeat.Clock

/-!
# The recorder of datagrams

In place of a socket a run has a `Recorder`: it keeps the datagrams that were delivered, with the
time of each, and counts attempts and failures. Attempts go through a `Tap`, which has a port and
may fail every n-th attempt; all taps of one recorder share its counters, its record and its outage
flag.
-/

set_option autoImplicit false
set_option relaxedAutoImplicit false

namespace Heartbeat

/-- Errors of the environment. -/
inductive EnvironmentError
  | network (text : String)
  | resolve (destination : String)
  | io (text : String)
deriving DecidableEq

/-- The text of an error. -/
def EnvironmentError.message : EnvironmentError → String
  | .network text => "Network error: " ++ text
  | .resolve destination => "Cannot resolve " ++ destination
  | .io text => "I/O error: " ++ text

/-- A delivered datagram and the time of its delivery. -/
structure Datagram where
  time : Clock
  bytes : List UInt8
deriving DecidableEq

/-- What the taps share: the delivered datagrams in order, the outage flag, and the counters. -/
structure Recorder where
  sent : Array Datagram
  unreachable : Bool
  attempts : UInt64
  failures : UInt64
deriving DecidableEq

/-- The recorder before any attempt. -/
def Recorder.empty : Recorder := ⟨#[], false, 0, 0⟩

/-- A way to send: the port, and which attempts fail. Zero means that none does. -/
structure Tap where
  port : UInt16
  failEvery : UInt64
deriving DecidableEq

namespace Tap

/-- The destination of a tap. -/
def destination (tap : Tap) : String :=
  "sim:" ++ toString tap.port.toNat

/-- The error of an attempt that fails. -/
def refusal (tap : Tap) : EnvironmentError :=
  .network (tap.destination ++ ": Connection refused")

/-- Whether the attempt with a number is one that the tap lets fail. -/
def drops (tap : Tap) (attempt : UInt64) : Bool :=
  0 < tap.failEvery && attempt % tap.failEvery == 0

/-- Sends a datagram: the number of bytes sent or the error, and the recorder afterwards. -/
def send (tap : Tap) (recorder : Recorder) (time : Clock) (bytes : List UInt8) :
    Except EnvironmentError Nat × Recorder :=
  let attempt := recorder.attempts + 1
  if recorder.unreachable || tap.drops attempt then
    (.error tap.refusal,
      { recorder with attempts := attempt, failures := recorder.failures + 1 })
  else
    (.ok bytes.length,
      { recorder with attempts := attempt, sent := recorder.sent.push ⟨time, bytes⟩ })

/-- Every attempt is counted, whatever becomes of it. -/
theorem attempts_send (tap : Tap) (recorder : Recorder) (time : Clock) (bytes : List UInt8) :
    (tap.send recorder time bytes).2.attempts = recorder.attempts + 1 := by
  unfold send
  dsimp only
  split <;> rfl

end Tap

end Heartbeat
