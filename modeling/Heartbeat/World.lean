import Heartbeat.Keystream
import Heartbeat.Recorder

/-!
# The world of a run

A `World` is all that a machine acts on: the clock, the keystream of the jitter, and the recorder.
An `Intervention` is what may be done to it from outside between the steps of a machine
(`World.undergo`). An `Identity` is the seed of a world and the process id that a machine speaks
for; the process id follows from the seed unless it is given.
-/

set_option autoImplicit false
set_option relaxedAutoImplicit false

namespace Heartbeat

/-- Clock, keystream and recorder. -/
structure World where
  clock : Clock
  stream : Keystream
  recorder : Recorder

namespace World

/-- The world of a seed: the clock at its start, nothing drawn and nothing sent. -/
def ofSeed (seed : UInt64) : World :=
  ⟨Clock.start, Keystream.ofSeed seed, Recorder.empty⟩

/-- The world after a span of time. -/
def advance (world : World) (span : Span) : Except Fault World :=
  (world.clock.advance span).map fun clock ↦ { world with clock := clock }

/-- The world at a time. -/
def setTime (world : World) (time : Clock) : World :=
  { world with clock := time }

/-- The world with the outage flag set or cleared. -/
def setUnreachable (world : World) (unreachable : Bool) : World :=
  { world with recorder := { world.recorder with unreachable := unreachable } }

/-- A draw from the keystream of the world. -/
def draw (world : World) (low high : UInt64) : UInt64 × World :=
  let (value, stream) := world.stream.draw low high
  (value, { world with stream := stream })

/-- An attempt to send through a tap. -/
def send (world : World) (tap : Tap) (bytes : List UInt8) :
    Except EnvironmentError Nat × World :=
  let (result, recorder) := tap.send world.recorder world.clock bytes
  (result, { world with recorder := recorder })

/-- Time that passes moves the clock and nothing else. -/
theorem advance_eq_ok_iff {world later : World} {span : Span} :
    world.advance span = .ok later ↔
      ∃ clock, world.clock.advance span = .ok clock ∧ later = { world with clock := clock } := by
  unfold advance
  rw [map_eq_ok_iff]
  exact exists_congr fun clock ↦ and_congr_right fun _ ↦ eq_comm

/-- Time cannot pass exactly when the sum is past the last nanosecond of the clock. -/
theorem advance_eq_error_iff {world : World} {span : Span} {fault : Fault} :
    world.advance span = .error fault ↔
      UInt64.size ≤ world.clock.now.nanos + span.nanos % UInt64.size ∧ fault = .clockOverflow := by
  unfold advance
  rw [map_eq_error_iff]
  exact Clock.advance_eq_error_iff

/-- Time can pass as long as the clock can hold it. -/
theorem exists_advance {world : World} {span : Span}
    (fits : world.clock.now.nanos + span.nanos < UInt64.size) :
    ∃ later, world.advance span = .ok later ∧
      later.clock.now.nanos = world.clock.now.nanos + span.nanos := by
  obtain ⟨clock, advanced, shown⟩ := Clock.exists_advance fits
  exact ⟨{ world with clock := clock }, advance_eq_ok_iff.mpr ⟨clock, advanced, rfl⟩, shown⟩

/-- No time leaves the world as it is. -/
theorem advance_zero (world : World) : world.advance Span.zero = .ok world :=
  advance_eq_ok_iff.mpr ⟨world.clock, world.clock.advance_zero, rfl⟩

@[simp]
theorem clock_draw (world : World) (low high : UInt64) :
    (world.draw low high).2.clock = world.clock := rfl

@[simp]
theorem recorder_draw (world : World) (low high : UInt64) :
    (world.draw low high).2.recorder = world.recorder := rfl

@[simp]
theorem clock_send (world : World) (tap : Tap) (bytes : List UInt8) :
    (world.send tap bytes).2.clock = world.clock := rfl

@[simp]
theorem stream_send (world : World) (tap : Tap) (bytes : List UInt8) :
    (world.send tap bytes).2.stream = world.stream := rfl

end World

/-! ### Interventions -/

/-- What is done to a world from outside: time passes, the clock is set, an outage begins or ends,
and somebody else draws from the keystream. -/
inductive Intervention
  | advance (span : Span)
  | setTime (time : Clock)
  | setUnreachable (unreachable : Bool)
  | draw (low high : UInt64)
deriving DecidableEq

/-- The world after an intervention. -/
def World.undergo (world : World) : Intervention → Except Fault World
  | .advance span => world.advance span
  | .setTime time => .ok (world.setTime time)
  | .setUnreachable unreachable => .ok (world.setUnreachable unreachable)
  | .draw low high => .ok (world.draw low high).2

/-! ### Identities -/

/-- A seed and a process id. -/
structure Identity where
  seed : UInt64
  pid : UInt32
deriving DecidableEq

/-- The identity of a seed: a process id from 1000 to 30999. -/
def Identity.ofSeed (seed : UInt64) : Identity :=
  ⟨seed, UInt32.ofNat (1000 + seed.toNat % 30000)⟩

end Heartbeat
