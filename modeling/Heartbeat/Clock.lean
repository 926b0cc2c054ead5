import Heartbeat.Fault
import Heartbeat.Span

/-!
# The virtual clock

A `Clock` counts nanoseconds since the start in 64 bits and moves only when it is told to. A span
that is longer than the clock can count is cut to its lowest 64 bits before it is added; a sum past
the last nanosecond is a fault (`Clock.advance`).
-/

set_option autoImplicit false
set_option relaxedAutoImplicit false

namespace Heartbeat

/-- A clock that counts nanoseconds. -/
structure Clock where
  nanos : UInt64
deriving DecidableEq, Inhabited

namespace Clock

/-- The clock at its start. -/
def start : Clock := ⟨0⟩

/-- The time on the clock. -/
def now (clock : Clock) : Span :=
  ⟨clock.nanos.toNat⟩

/-- The clock after a span of time. -/
def advance (clock : Clock) (span : Span) : Except Fault Clock :=
  let sum := clock.nanos.toNat + span.nanos % UInt64.size
  if sum < UInt64.size then .ok ⟨UInt64.ofNat sum⟩ else .error .clockOverflow

/-- A clock that was advanced shows the lowest 64 bits of the span more than before. -/
theorem nanos_now_of_advance {clock later : Clock} {span : Span}
    (advanced : clock.advance span = .ok later) :
    later.now.nanos = clock.now.nanos + span.nanos % UInt64.size := by
  unfold advance at advanced
  dsimp only at advanced
  split at advanced
  · next fits =>
    cases advanced
    exact UInt64.toNat_ofNat_of_lt' fits
  · cases advanced

/-- The time on a clock determines the clock. -/
theorem eq_of_now_eq {clock later : Clock} (same : clock.now.nanos = later.now.nanos) :
    clock = later := by
  cases clock
  cases later
  exact congrArg Clock.mk (UInt64.toNat_inj.mp same)

/-- The time on a clock is less than the clock can count. -/
theorem nanos_now_lt (clock : Clock) : clock.now.nanos < UInt64.size :=
  clock.nanos.toNat_lt

/-- A clock can be advanced as long as the sum fits, and then shows the sum. -/
theorem exists_advance {clock : Clock} {span : Span}
    (fits : clock.now.nanos + span.nanos < UInt64.size) :
    ∃ later, clock.advance span = .ok later ∧ later.now.nanos = clock.now.nanos + span.nanos := by
  have small : span.nanos % UInt64.size = span.nanos := Nat.mod_eq_of_lt (by omega)
  unfold now at fits
  refine ⟨⟨UInt64.ofNat (clock.nanos.toNat + span.nanos)⟩, ?_, ?_⟩
  · unfold advance
    rw [small, if_pos fits]
  · exact UInt64.toNat_ofNat_of_lt' fits

/-- No time leaves a clock as it is. -/
theorem advance_zero (clock : Clock) : clock.advance Span.zero = .ok clock := by
  obtain ⟨later, advanced, shown⟩ := @exists_advance clock Span.zero clock.nanos_now_lt
  rw [advanced, eq_of_now_eq shown]

/-- A clock cannot be advanced exactly when the sum passes its last nanosecond. -/
theorem advance_eq_error_iff {clock : Clock} {span : Span} {fault : Fault} :
    clock.advance span = .error fault ↔
      UInt64.size ≤ clock.now.nanos + span.nanos % UInt64.size ∧ fault = .clockOverflow := by
  unfold advance now
  dsimp only
  split
  · simp only [reduceCtorEq, false_iff, not_and]
    omega
  · simp only [Except.error.injEq]
    exact ⟨fun h ↦ ⟨by omega, h.symm⟩, fun h ↦ h.2.symm⟩

end Clock

end Heartbeat
