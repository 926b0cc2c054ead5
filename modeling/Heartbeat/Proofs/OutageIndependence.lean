import Heartbeat.Proofs.UndisturbedRun
import Mathlib.Data.List.Forall2

/-!
# Outages do not disturb the schedule

Two runs of one instance in one world, with different failures of the transport, are compared step
by step. `Alike` says what such runs have in common: their machines differ at most in which attempts
the taps let fail, their worlds at most in the recorders, and their events at most in what became of
an attempt (`Event.Alike`). Whatever fails, the same wait is drawn and waited after an attempt, so a
step keeps two runs alike or ends both with the same fault (`Machine.step_alike`). Outages that
begin and end between the steps touch nothing but the recorders. The two runs therefore agree after
every number of steps (`Progress.follow_outages_alike`).
-/

set_option autoImplicit false
set_option relaxedAutoImplicit false

namespace Heartbeat

/-! ### Computations with matching results -/

/-- Two computations come to results that are related, or end with the same fault. -/
inductive Matching {α β : Type} (related : α → β → Prop) : Except Fault α → Except Fault β → Prop
  | ok {left : α} {right : β} (both : related left right) : Matching related (.ok left) (.ok right)
  | fault (fault : Fault) : Matching related (.error fault) (.error fault)

namespace Matching

variable {α β γ δ : Type} {related : α → β → Prop} {later : γ → δ → Prop}
  {left : Except Fault α} {right : Except Fault β}

/-- Results that are related are mapped to results that are related. -/
theorem map {f : α → γ} {g : β → δ} (matching : Matching related left right)
    (next : ∀ first second, related first second → later (f first) (g second)) :
    Matching later (left.map f) (right.map g) := by
  cases matching with
  | ok both => exact .ok (next _ _ both)
  | fault fault => exact .fault fault

/-- Computations that go on from related results in a matching way match as a whole. -/
theorem bind {f : α → Except Fault γ} {g : β → Except Fault δ}
    (matching : Matching related left right)
    (next : ∀ first second, related first second → Matching later (f first) (g second)) :
    Matching later (left.bind f) (right.bind g) := by
  cases matching with
  | ok both => exact next _ _ both
  | fault fault => exact .fault fault

/-- A computation matches itself. -/
theorem refl (computation : Except Fault α) : Matching Eq computation computation := by
  cases computation with
  | ok value => exact .ok rfl
  | error fault => exact .fault fault

end Matching

/-! ### What two runs have in common -/

/-- Two events that differ at most in what became of an attempt: it was delivered in one run and
failed in the other, and the wait after it is the same. -/
inductive Event.Alike : Event → Event → Prop
  | same (event : Event) : Alike event event
  | lost (payload : Payload) (error : EnvironmentError) (waitTime nextWait : ℕ) :
      Alike (.heartbeatSent payload waitTime nextWait) (.sendFailed error nextWait)
  | regained (payload : Payload) (error : EnvironmentError) (waitTime nextWait : ℕ) :
      Alike (.sendFailed error nextWait) (.heartbeatSent payload waitTime nextWait)

/-- Two events at the same time that are alike. -/
structure Stamped.Alike (left right : Stamped) : Prop where
  time : left.time = right.time
  event : left.event.Alike right.event

/-- Two machines that differ at most in which attempts their taps let fail. -/
def Machine.Alike (left right : Machine) : Prop :=
  ∃ failEvery, right = { left with tap := { left.tap with failEvery := failEvery } }

/-- Two worlds that differ at most in their recorders: they have the same clock and the same
keystream. -/
def World.Alike (left right : World) : Prop :=
  ∃ recorder, right = { left with recorder := recorder }

/-- Two outcomes that are alike. What is said may differ. -/
structure Machine.Outcome.Alike (left right : Machine.Outcome) : Prop where
  machine : left.machine.Alike right.machine
  world : left.world.Alike right.world
  event : left.event.Alike right.event

/-- Two runs that are alike: the machines, the worlds, and all events so far. -/
structure Progress.Alike (left right : Progress) : Prop where
  machine : left.machine.Alike right.machine
  world : left.world.Alike right.world
  events : List.Forall₂ Stamped.Alike left.events.toList right.events.toList

theorem Machine.Alike.phase_eq {left right : Machine} (alike : left.Alike right) :
    right.phase = left.phase := by
  obtain ⟨failEvery, rfl⟩ := alike
  rfl

theorem Machine.Alike.activeJitter_eq {left right : Machine} (alike : left.Alike right) :
    right.activeJitter = left.activeJitter := by
  obtain ⟨failEvery, rfl⟩ := alike
  rfl

theorem World.Alike.clock_eq {left right : World} (alike : left.Alike right) :
    right.clock = left.clock := by
  obtain ⟨recorder, rfl⟩ := alike
  rfl

/-! ### One step -/

/-- Time passes in the same way in worlds that are alike. -/
theorem World.Alike.advance {left right : World} (alike : left.Alike right) (span : Span) :
    Matching World.Alike (left.advance span) (right.advance span) := by
  obtain ⟨recorder, rfl⟩ := alike
  unfold World.advance
  dsimp only
  cases left.clock.advance span with
  | error fault => exact .fault fault
  | ok clock => exact .ok ⟨recorder, rfl⟩

namespace Machine

/-- An attempt that fails through a tap fails with the refusal of the tap. -/
theorem error_eq_refusal {machine : Machine} {world : World} {low high : UInt64}
    {error : EnvironmentError} (failed : (machine.attempt world low high).result = .error error) :
    error = machine.tap.refusal := by
  unfold attempt World.send Tap.send at failed
  dsimp only at failed
  split at failed
  · cases failed
    rfl
  · cases failed

section Attempts

variable {left right : Machine} {here there : World} (machines : left.Alike right)
  (worlds : here.Alike there) (low high : UInt64)

include machines worlds

/-- After an attempt the same wait is drawn, whatever became of the attempt. -/
theorem Alike.nextWait_eq :
    (left.attempt here low high).nextWait = (right.attempt there low high).nextWait := by
  obtain ⟨failEvery, rfl⟩ := machines
  obtain ⟨recorder, rfl⟩ := worlds
  rfl

/-- An attempt changes nothing but the recorder and, by the draw, the keystream. -/
theorem Alike.world_attempt :
    (left.attempt here low high).world.Alike (right.attempt there low high).world := by
  obtain ⟨failEvery, rfl⟩ := machines
  obtain ⟨recorder, rfl⟩ := worlds
  exact ⟨_, rfl⟩

/-- The events of two attempts differ at most in what became of them: two failures have the same
error, because the taps have the same port. -/
theorem Alike.event_attempt (payload : Payload) (waitTime : ℕ) :
    ((left.attempt here low high).event payload waitTime).Alike
      ((right.attempt there low high).event payload waitTime) := by
  have wait := machines.nextWait_eq worlds low high
  have refusal : right.tap.refusal = left.tap.refusal := by
    obtain ⟨failEvery, rfl⟩ := machines
    rfl
  unfold Attempt.event
  rw [← wait]
  cases first : (left.attempt here low high).result with
  | ok count =>
    cases second : (right.attempt there low high).result with
    | ok other => exact .same _
    | error lost => exact .lost _ _ _ _
  | error lost =>
    cases second : (right.attempt there low high).result with
    | ok other => exact .regained _ _ _ _
    | error other =>
      rw [error_eq_refusal first, error_eq_refusal second, refusal]
      exact .same _

end Attempts

/-- A step of machines that are alike, in worlds that are alike: the outcomes are alike, or both
steps end with the same fault. -/
theorem step_alike {left right : Machine} {here there : World} (machines : left.Alike right)
    (worlds : here.Alike there) :
    Matching Outcome.Alike (left.step here) (right.step there) := by
  cases phase : left.phase with
  | initialDelay =>
    rw [step_of_initialDelay phase, step_of_initialDelay (machines.phase_eq.trans phase)]
    obtain ⟨failEvery, rfl⟩ := machines
    refine (worlds.advance _).map ?_
    intro first second waited
    exact ⟨⟨failEvery, by rw [waited.clock_eq]⟩, waited, .same _⟩
  | looping =>
    cases active : left.activeJitter with
    | none =>
      rw [step_of_idle phase active,
        step_of_idle (machines.phase_eq.trans phase) (machines.activeJitter_eq.trans active)]
      obtain ⟨failEvery, rfl⟩ := machines
      refine (worlds.advance _).map ?_
      intro first second waited
      refine ⟨⟨failEvery, ?_⟩, waited, .same _⟩
      rw [waited.clock_eq]
      rfl
    | some range =>
      obtain ⟨low, high⟩ := range
      have events := machines.event_attempt worlds low high left.payload left.state.waitTime
      have waits := (machines.world_attempt worlds low high).advance
        (loopWait (left.attempt here low high).nextWait)
      rw [step_of_beat phase active,
        step_of_beat (machines.phase_eq.trans phase) (machines.activeJitter_eq.trans active),
        ← machines.nextWait_eq worlds low high]
      obtain ⟨failEvery, rfl⟩ := machines
      refine waits.map ?_
      intro first second waited
      refine ⟨⟨failEvery, ?_⟩, waited, events⟩
      rw [waited.clock_eq]
      rfl
  | ceiling =>
    rw [step_of_ceiling phase, step_of_ceiling (machines.phase_eq.trans phase)]
    obtain ⟨failEvery, rfl⟩ := machines
    refine .ok ?_
    unfold applyRole
    cases left.role with
    | crash | noHeartbeat | unrecognized name => exact ⟨⟨failEvery, rfl⟩, worlds, .same _⟩
  | stalling remaining =>
    obtain ⟨failEvery, rfl⟩ := machines
    unfold step
    rw [phase]
    cases remaining with
    | zero =>
      refine (Matching.refl (spanOf left.timing.stall.window?)).bind ?_
      rintro window - rfl
      exact .ok ⟨⟨failEvery, rfl⟩, worlds, .same _⟩
    | succ remaining =>
      refine (Matching.refl (spanOf left.timing.stall.step?)).bind ?_
      rintro span - rfl
      refine (worlds.advance span).bind ?_
      intro first second waited
      exact .ok ⟨⟨failEvery, rfl⟩, waited, .same _⟩
  | crashed =>
    rw [step_of_crashed phase, step_of_crashed (machines.phase_eq.trans phase)]
    exact .ok ⟨machines, worlds, .same _⟩

end Machine

/-! ### Runs -/

namespace Progress

/-- A step keeps two runs alike, or ends both. -/
theorem Alike.step {left right : Progress} (alike : left.Alike right) :
    Matching Alike (left.move .step) (right.move .step) := by
  refine (Machine.step_alike alike.machine alike.world).map ?_
  intro first second outcomes
  refine ⟨outcomes.machine, outcomes.world, ?_⟩
  have stamped : Stamped.Alike ⟨first.world.clock, first.event⟩
      ⟨second.world.clock, second.event⟩ := ⟨outcomes.world.clock_eq.symm, outcomes.event⟩
  simp only [after, Array.toList_push]
  exact List.rel_append alike.events (.cons stamped .nil)

/-- Outages that begin and end between two steps touch nothing but the outage flag. -/
theorem follow_setUnreachable (progress : Progress) (flags : List Bool) :
    ∃ unreachable, progress.follow (flags.map fun flag ↦ .outside (.setUnreachable flag)) =
      .ok (progress.disturbed progress.world.stream unreachable) := by
  induction flags generalizing progress with
  | nil => exact ⟨progress.world.recorder.unreachable, rfl⟩
  | cons flag flags ih =>
    obtain ⟨unreachable, followed⟩ := ih (progress.disturbed progress.world.stream flag)
    exact ⟨unreachable, followed⟩

/-- Outages in either run keep two runs alike. -/
theorem Alike.disturbed {left right : Progress} (alike : left.Alike right) (here there : Bool) :
    (left.disturbed left.world.stream here).Alike
      (right.disturbed right.world.stream there) := by
  obtain ⟨recorder, worlds⟩ := alike.world
  refine ⟨alike.machine, ⟨{ recorder with unreachable := there }, ?_⟩, alike.events⟩
  unfold Progress.disturbed World.disturbed
  rw [worlds]

/-- Outages before a step, and the step. -/
theorem Alike.round {left right : Progress} (alike : left.Alike right) (here there : List Bool) :
    Matching Alike
      (left.follow ((here.map fun flag ↦ .outside (.setUnreachable flag)) ++ [.step]))
      (right.follow ((there.map fun flag ↦ .outside (.setUnreachable flag)) ++ [.step])) := by
  obtain ⟨hereFlag, hereFollowed⟩ := left.follow_setUnreachable here
  obtain ⟨thereFlag, thereFollowed⟩ := right.follow_setUnreachable there
  rw [follow_append, follow_append, hereFollowed, thereFollowed]
  refine (alike.disturbed hereFlag thereFlag).step.bind ?_
  intro first second both
  exact .ok both

end Progress

/-- The schedule of a transport: the flags that are set before each step, `true` where an outage
begins and `false` where it ends. -/
def Schedule.outages (flags : ℕ → List Bool) : Schedule :=
  fun index ↦ (flags index).map .setUnreachable

namespace Progress

/-- What becomes of the transport has no influence on the schedule of a run: two runs of one
instance in one world, with any two ways in which the tap drops attempts and any two sequences of
outages, agree after any number of steps. They have the same clock, keystream, phase and state and
the same events at the same times, except that an attempt may be delivered in one of them and fail
in the other, or both end at the same step with the same fault. -/
theorem follow_outages_alike (config : Instance) (role : Role) (port : UInt16) (pid : UInt32)
    (world : World) (here there : UInt64) (hereFlags thereFlags : ℕ → List Bool) (count : ℕ) :
    Matching Alike
      ((fresh config role ⟨port, here⟩ pid world).follow
        ((Schedule.outages hereFlags).moves count))
      ((fresh config role ⟨port, there⟩ pid world).follow
        ((Schedule.outages thereFlags).moves count)) := by
  induction count with
  | zero => exact .ok ⟨⟨there, rfl⟩, ⟨world.recorder, rfl⟩, .nil⟩
  | succ count ih =>
    rw [Schedule.moves_succ, Schedule.moves_succ, follow_append, follow_append]
    refine ih.bind ?_
    intro left right alike
    have rounds := alike.round (hereFlags count) (thereFlags count)
    unfold Schedule.outages
    rw [List.map_map, List.map_map]
    exact rounds

end Progress

end Heartbeat
