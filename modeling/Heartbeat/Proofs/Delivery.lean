import Heartbeat.Proofs.TraceLanguage
import Heartbeat.Trace

/-!
# What the recorder keeps

A step either leaves the recorder as it is or makes one attempt, and the event of the step says
which and what became of it (`Transition.recorded`). From this the record and the events of a run
are compared: every datagram is the heartbeat of the machine (`Carries`), a machine without
heartbeats sends nothing (`Mute`), and without outages the attempts, the failures and the deliveries
are counted alike by the recorder and by the events (`Accounted`).
-/

set_option autoImplicit false
set_option relaxedAutoImplicit false

namespace Heartbeat

open Machine (SameMake Transition)

/-! ### One step -/

/-- What a step does to the recorder, given its event. -/
inductive Recorded (tap : Tap) (bytes : List UInt8) (time : Clock) (before : Recorder) :
    Event → Recorder → Prop
  | quiet {event : Event} (other : event.letter ≠ .attempt) :
      Recorded tap bytes time before event before
  | delivered {payload : Payload} {waitTime nextWait : ℕ} (reachable : before.unreachable = false)
      (kept : tap.drops (before.attempts + 1) = false) :
      Recorded tap bytes time before (.heartbeatSent payload waitTime nextWait)
        { before with
          attempts := before.attempts + 1
          sent := before.sent.push ⟨time, bytes⟩ }
  | dropped {error : EnvironmentError} {nextWait : ℕ}
      (lost : (before.unreachable || tap.drops (before.attempts + 1)) = true) :
      Recorded tap bytes time before (.sendFailed error nextWait)
        { before with
          attempts := before.attempts + 1
          failures := before.failures + 1 }

/-- An attempt is counted, whatever becomes of it, and nothing else is. -/
theorem Recorded.attempts_eq {tap : Tap} {bytes : List UInt8} {time : Clock}
    {before after : Recorder} {event : Event} (recorded : Recorded tap bytes time before event after) :
    after.attempts = before.attempts + if event.letter = .attempt then 1 else 0 := by
  cases recorded with
  | quiet other => rw [if_neg other, UInt64.add_zero]
  | delivered | dropped => rfl

/-- An attempt of a machine is recorded. -/
theorem Machine.recorded_attempt (machine : Machine) (world : World) (low high : UInt64)
    (waitTime : ℕ) :
    Recorded machine.tap machine.payload.bytes world.clock world.recorder
      ((machine.attempt world low high).event machine.payload waitTime)
      (machine.attempt world low high).world.recorder := by
  rw [recorder_attempt]
  unfold Attempt.event attempt World.send Tap.send
  dsimp only
  by_cases lost : (world.recorder.unreachable ||
      machine.tap.drops (world.recorder.attempts + 1)) = true
  · rw [if_pos lost]
    exact .dropped lost
  · rw [if_neg lost]
    simp only [Bool.or_eq_true, not_or, Bool.not_eq_true] at lost
    exact .delivered lost.1 lost.2

/-- Every step is recorded. -/
theorem Machine.Transition.recorded {machine : Machine} {world : World} {outcome : Outcome}
    (transition : Transition machine world outcome) :
    Recorded machine.tap machine.payload.bytes world.clock world.recorder outcome.event
      outcome.world.recorder := by
  cases transition with
  | delay phase wait | idle phase disabled wait | keepSilent phase silence wait =>
    obtain ⟨clock, -, rfl⟩ := World.advance_eq_ok_iff.mp wait
    exact .quiet (by simp [Event.letter])
  | @beat low high later phase enabled wait =>
    obtain ⟨clock, -, rfl⟩ := World.advance_eq_ok_iff.mp wait
    exact machine.recorded_attempt world low high machine.state.waitTime
  | crash | fallSilent | goOn | endStall | rest => exact .quiet (by simp [Event.letter])

namespace Progress

/-! ### The datagrams -/

/-- Every datagram is the heartbeat of the machine. -/
structure Carries (made : Machine) (progress : Progress) : Prop where
  same : SameMake made progress.machine
  bytes : ∀ datagram ∈ progress.world.recorder.sent, datagram.bytes = made.payload.bytes

theorem stable_carries (made : Machine) : Stable (Carries made) where
  step progress outcome carries transition := by
    refine ⟨carries.same.trans transition.sameMake, ?_⟩
    show ∀ datagram ∈ outcome.world.recorder.sent, _
    have recorded := transition.recorded
    generalize outcome.event = event at recorded
    generalize outcome.world.recorder = recorder at recorded ⊢
    cases recorded with
    | quiet | dropped => exact carries.bytes
    | delivered reachable kept =>
      intro datagram member
      rcases Array.mem_push.mp member with old | rfl
      · exact carries.bytes datagram old
      · exact congrArg Payload.bytes carries.same.payload_eq
  outside _ _ _ carries := ⟨carries.same, carries.bytes⟩

/-- A machine without heartbeats has sent nothing. -/
structure Mute (progress : Progress) : Prop where
  disabled : progress.machine.activeJitter = none
  sent : progress.world.recorder.sent = #[]

theorem stable_mute : Stable Mute where
  step progress outcome mute transition := by
    refine ⟨transition.sameMake.activeJitter_eq.trans mute.disabled, ?_⟩
    show outcome.world.recorder.sent = #[]
    cases transition with
    | delay phase wait | idle phase disabled wait | keepSilent phase silence wait =>
      obtain ⟨clock, -, rfl⟩ := World.advance_eq_ok_iff.mp wait
      exact mute.sent
    | beat phase enabled wait =>
      rw [mute.disabled] at enabled
      cases enabled
    | crash | fallSilent | goOn | endStall | rest => exact mute.sent
  outside _ _ _ mute := ⟨mute.disabled, mute.sent⟩

/-! ### The counters -/

end Progress

/-- A tap lets an attempt fail exactly when it divides the number of the attempt. -/
theorem Tap.drops_iff {tap : Tap} {attempt : UInt64} (counted : 0 < attempt.toNat) :
    tap.drops attempt = true ↔ tap.failEvery.toNat ∣ attempt.toNat := by
  unfold drops
  rw [Bool.and_eq_true, decide_eq_true_eq, beq_iff_eq, UInt64.lt_iff_toNat_lt,
    ← UInt64.toNat_inj, UInt64.toNat_mod, Nat.dvd_iff_mod_eq_zero]
  constructor
  · exact And.right
  · intro divides
    refine ⟨?_, divides⟩
    rcases Nat.eq_zero_or_pos tap.failEvery.toNat with never | some
    · rw [never, Nat.mod_zero] at divides
      omega
    · exact some

/-- What the recorder counts is what happened, and the attempts that have failed are those with a
number that the tap divides. -/
structure Accounted (tap : Tap) (events : Array Stamped) (recorder : Recorder) : Prop where
  few : recorder.attempts.toNat ≤ events.size
  made : (events.countP fun stamped ↦ stamped.event.isSent) +
    (events.countP fun stamped ↦ stamped.event.isFailed) = recorder.attempts.toNat
  failed : (events.countP fun stamped ↦ stamped.event.isFailed) =
    recorder.attempts.toNat / tap.failEvery.toNat
  failures : recorder.failures.toNat = recorder.attempts.toNat / tap.failEvery.toNat

/-- An event that is accounted for, as long as it is not too late for the counters. -/
theorem Accounted.push {tap : Tap} {bytes : List UInt8} {time : Clock} {events : Array Stamped}
    {before later : Recorder} {stamped : Stamped} (accounted : Accounted tap events before)
    (short : events.size + 1 < UInt64.size) (reachable : before.unreachable = false)
    (recorded : Recorded tap bytes time before stamped.event later) :
    Accounted tap (events.push stamped) later := by
  obtain ⟨few, made, failed, failures⟩ := accounted
  have attempts : (before.attempts + 1).toNat = before.attempts.toNat + 1 := by
    rw [UInt64.toNat_add]
    exact Nat.mod_eq_of_lt (Nat.lt_of_le_of_lt (Nat.succ_le_succ few) short)
  obtain ⟨stamp, event⟩ := stamped
  dsimp only at recorded
  cases recorded with
  | quiet other =>
    have unsent : event.isSent = false := by cases event <;> simp_all [Event.letter, Event.isSent]
    have kept : event.isFailed = false := by
      cases event <;> simp_all [Event.letter, Event.isFailed]
    refine ⟨?_, ?_, ?_, failures⟩
    · rw [Array.size_push]
      exact Nat.le_succ_of_le few
    · simpa only [Array.countP_push, unsent, kept, Bool.false_eq_true, if_false, Nat.add_zero]
    · simpa only [Array.countP_push, kept, Bool.false_eq_true, if_false, Nat.add_zero]
  | delivered _ kept =>
    have undivided : ¬ tap.failEvery.toNat ∣ before.attempts.toNat + 1 := by
      rw [← attempts, ← Tap.drops_iff (by omega), kept]
      exact Bool.false_ne_true
    have quotient : (before.attempts.toNat + 1) / tap.failEvery.toNat =
        before.attempts.toNat / tap.failEvery.toNat := by
      rw [Nat.succ_div, if_neg undivided, Nat.add_zero]
    refine ⟨?_, ?_, ?_, ?_⟩
    · rw [Array.size_push, attempts]
      exact Nat.succ_le_succ few
    · rw [Array.countP_push_of_pos rfl, Array.countP_push_of_neg Bool.false_ne_true, attempts,
        ← made]
      omega
    · rw [Array.countP_push_of_neg Bool.false_ne_true, attempts, quotient]
      exact failed
    · rw [attempts, quotient]
      exact failures
  | dropped lost =>
    rw [reachable, Bool.false_or, Tap.drops_iff (by omega), attempts] at lost
    have quotient : (before.attempts.toNat + 1) / tap.failEvery.toNat =
        before.attempts.toNat / tap.failEvery.toNat + 1 := by
      rw [Nat.succ_div, if_pos lost]
    have another : (before.failures + 1).toNat = before.failures.toNat + 1 := by
      have fewer := Nat.div_le_self before.attempts.toNat tap.failEvery.toNat
      rw [UInt64.toNat_add]
      refine Nat.mod_eq_of_lt (Nat.lt_of_le_of_lt (Nat.succ_le_succ ?_) short)
      omega
    refine ⟨?_, ?_, ?_, ?_⟩
    · rw [Array.size_push, attempts]
      exact Nat.succ_le_succ few
    · rw [Array.countP_push_of_neg Bool.false_ne_true, Array.countP_push_of_pos rfl, attempts,
        ← made]
      omega
    · rw [Array.countP_push_of_pos rfl, attempts, quotient, failed]
    · rw [attempts, another, quotient, failures]

namespace Progress

/-- A run without outages that is not too long for the counters is accounted for. -/
structure Reachable (tap : Tap) (progress : Progress) : Prop where
  tap_eq : progress.machine.tap = tap
  reachable : progress.world.recorder.unreachable = false
  accounted : progress.events.size < UInt64.size →
    Accounted tap progress.events progress.world.recorder

theorem kept_reachable (tap : Tap) : Kept (Reachable tap) := by
  intro progress outcome reachable transition
  have recorded := transition.recorded
  rw [reachable.tap_eq] at recorded
  refine ⟨transition.sameMake.tap.trans reachable.tap_eq, ?_, ?_⟩
  · show outcome.world.recorder.unreachable = false
    generalize outcome.event = event at recorded
    generalize outcome.world.recorder = recorder at recorded ⊢
    cases recorded <;> exact reachable.reachable
  · intro short
    have size : (after progress.events progress.notices outcome).events.size =
        progress.events.size + 1 := Array.size_push _
    exact (reachable.accounted (by omega)).push (by omega) reachable.reachable recorded

end Progress

end Heartbeat
