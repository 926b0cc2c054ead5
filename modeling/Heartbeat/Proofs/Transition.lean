import Heartbeat.Machine

/-!
# What one step can do

`Transition` lists everything that one step of a machine can do, with one constructor for each kind
of step: the phase in which it is taken, what it needs of the world, and the machine, the world, the
event and the notice afterwards. `step_eq_ok_iff` says that the list is complete and that nothing
on it is impossible. Everything else about runs is derived from it.

What a machine was made with is the same after every step (`Transition.sameMake`).
`Event.duration` is the time that a step takes according to its event, and
`Transition.advance_duration` shows that the clock moves by that time and by nothing else.
-/

set_option autoImplicit false
set_option relaxedAutoImplicit false

namespace Heartbeat

namespace Machine

/-! ### Attempts -/

/-- What becomes of an attempt to send: its result, the wait that is drawn after it, and the world
before that wait. -/
structure Attempt where
  result : Except EnvironmentError Nat
  nextWait : Nat
  world : World

/-- The heartbeat that a machine sends. -/
def payload (machine : Machine) : Payload :=
  ⟨machine.state.pid⟩

/-- The attempt of a machine, with the range of the wait after it. -/
def attempt (machine : Machine) (world : World) (low high : UInt64) : Attempt :=
  let sent := world.send machine.tap machine.payload.bytes
  let drawn := sent.2.draw low high
  ⟨sent.1, drawn.1.toNat, drawn.2⟩

namespace Attempt

/-- The event of an attempt. -/
def event (attempt : Attempt) (payload : Payload) (waitTime : Nat) : Event :=
  match attempt.result with
  | .ok _ => .heartbeatSent payload waitTime attempt.nextWait
  | .error error => .sendFailed error attempt.nextWait

/-- What is said about an attempt. -/
def notice (attempt : Attempt) (payload : Payload) (waitTime : Nat) (destination : String) :
    Notice :=
  match attempt.result with
  | .ok _ => .delivered destination payload waitTime
  | .error error => .refused destination error

end Attempt

@[simp]
theorem clock_attempt (machine : Machine) (world : World) (low high : UInt64) :
    (machine.attempt world low high).world.clock = world.clock := rfl

theorem recorder_attempt (machine : Machine) (world : World) (low high : UInt64) :
    (machine.attempt world low high).world.recorder =
      (machine.tap.send world.recorder world.clock machine.payload.bytes).2 := rfl

theorem nextWait_attempt (machine : Machine) (world : World) (low high : UInt64) :
    (machine.attempt world low high).nextWait = (world.stream.draw low high).1.toNat := rfl

/-- A round of the loop with heartbeats disabled is an idle wait. -/
theorem beat_of_activeJitter_eq_none {machine : Machine} (disabled : machine.activeJitter = none)
    (world : World) :
    machine.beat world =
      (world.advance idleWait).map fun world ↦ ⟨machine, world, .idle, none⟩ := by
  unfold beat
  rw [disabled]

/-- A round of the loop with heartbeats enabled is an attempt and the wait drawn after it. -/
theorem beat_of_activeJitter_eq_some {machine : Machine} {low high : UInt64}
    (enabled : machine.activeJitter = some (low, high)) (world : World) :
    machine.beat world =
      let attempt := machine.attempt world low high
      (attempt.world.advance (loopWait attempt.nextWait)).map fun world ↦
        { machine := { machine with state := { machine.state with waitTime := attempt.nextWait } }
          world := world
          event := attempt.event machine.payload machine.state.waitTime
          notice := some (attempt.notice machine.payload machine.state.waitTime
            machine.tap.destination) } := by
  unfold beat
  rw [enabled]
  dsimp only [attempt, Attempt.event, Attempt.notice, payload]
  cases (world.send machine.tap (Payload.bytes ⟨machine.state.pid⟩)).1 <;> rfl

/-! ### Transitions -/

/-- Everything that one step can do. -/
inductive Transition (machine : Machine) (world : World) : Outcome → Prop
  | delay {later : World} (phase : machine.phase = .initialDelay)
      (wait : world.advance (machine.timing.initialSleep.getD Span.zero) = .ok later) :
      Transition machine world
        { machine := { machine with
            state := { machine.state with startTime := later.clock.now }
            phase := .looping }
          world := later
          event := .initialDelay (machine.timing.initialSleep.getD Span.zero)
          notice := machine.timing.initialSleep.map .waiting }
  | idle {later : World} (phase : machine.phase = .looping)
      (disabled : machine.activeJitter = none) (wait : world.advance idleWait = .ok later) :
      Transition machine world ⟨machine.checkCeiling later.clock, later, .idle, none⟩
  | beat {low high : UInt64} {later : World} (phase : machine.phase = .looping)
      (enabled : machine.activeJitter = some (low, high))
      (wait : (machine.attempt world low high).world.advance
        (loopWait (machine.attempt world low high).nextWait) = .ok later) :
      Transition machine world
        { machine := { machine with state := { machine.state with
            waitTime := (machine.attempt world low high).nextWait } }.checkCeiling later.clock
          world := later
          event := (machine.attempt world low high).event machine.payload machine.state.waitTime
          notice := some ((machine.attempt world low high).notice machine.payload
            machine.state.waitTime machine.tap.destination) }
  | crash (phase : machine.phase = .ceiling) (role : machine.role = .crash) :
      Transition machine world
        ⟨{ machine with phase := .crashed }, world, .crashed,
          some (.stopped machine.state.elapsed)⟩
  | fallSilent (phase : machine.phase = .ceiling) (role : machine.role = .noHeartbeat) :
      Transition machine world
        { machine := { machine with
            phase := .stalling machine.timing.stall.repeats
            ceilingNoted := true }
          world := world
          event := .ceilingReached machine.state.elapsed machine.role
          notice := some (.stalling machine.timing.stall) }
  | goOn {name : String} (phase : machine.phase = .ceiling)
      (role : machine.role = .unrecognized name) :
      Transition machine world
        { machine := { machine with phase := .looping, ceilingNoted := true }
          world := world
          event := .ceilingReached machine.state.elapsed machine.role
          notice := if machine.ceilingNoted then none else some (.noAction name) }
  | endStall {window : Span} (phase : machine.phase = .stalling 0)
      (silence : machine.timing.stall.window? = some window) :
      Transition machine world
        { machine := { machine with
            state := { machine.state with
              waitTime := min (machine.state.waitTime + Binary64.roundHalfUp window.number)
                maxCounter }
            phase := .looping }
          world := world
          event := .stallFinished
          notice := some .resuming }
  | keepSilent {remaining : Nat} {span : Span} {later : World}
      (phase : machine.phase = .stalling (remaining + 1))
      (silence : machine.timing.stall.step? = some span)
      (wait : world.advance span = .ok later) :
      Transition machine world
        { machine := { machine with phase := .stalling remaining }
          world := later
          event := .stalled remaining
          notice := some .silent }
  | rest (phase : machine.phase = .crashed) :
      Transition machine world ⟨machine, world, .crashed, none⟩

variable {machine : Machine} {world : World} {outcome : Outcome}

/-! ### The step of each phase -/

/-- The initial delay is a wait, of no time if there is no sleep. -/
theorem step_of_initialDelay (phase : machine.phase = .initialDelay) :
    machine.step world =
      (world.advance (machine.timing.initialSleep.getD Span.zero)).map fun later ↦
        { machine := { machine with
            state := { machine.state with startTime := later.clock.now }
            phase := .looping }
          world := later
          event := .initialDelay (machine.timing.initialSleep.getD Span.zero)
          notice := machine.timing.initialSleep.map .waiting } := by
  unfold step
  rw [phase]
  dsimp only
  unfold waitForDelay
  cases machine.timing.initialSleep with
  | none =>
    rw [Option.getD_none, world.advance_zero]
    rfl
  | some span =>
    rw [Option.getD_some]
    dsimp only
    cases world.advance span <;> rfl

/-- In the loop a step is a round of the loop. -/
theorem step_of_looping (phase : machine.phase = .looping) :
    machine.step world = machine.loop world := by
  unfold step
  rw [phase]

/-- A round of the loop without heartbeats is an idle wait and a look at the clock. -/
theorem step_of_idle (phase : machine.phase = .looping) (disabled : machine.activeJitter = none) :
    machine.step world = (world.advance idleWait).map fun later ↦
      ⟨machine.checkCeiling later.clock, later, .idle, none⟩ := by
  rw [step_of_looping phase]
  unfold loop
  rw [beat_of_activeJitter_eq_none disabled]
  cases world.advance idleWait <;> rfl

/-- A round of the loop with heartbeats is an attempt, a wait and a look at the clock. -/
theorem step_of_beat {low high : UInt64} (phase : machine.phase = .looping)
    (enabled : machine.activeJitter = some (low, high)) :
    machine.step world =
      ((machine.attempt world low high).world.advance
        (loopWait (machine.attempt world low high).nextWait)).map fun later ↦
          { machine := { machine with state := { machine.state with
              waitTime := (machine.attempt world low high).nextWait } }.checkCeiling later.clock
            world := later
            event := (machine.attempt world low high).event machine.payload machine.state.waitTime
            notice := some ((machine.attempt world low high).notice machine.payload
              machine.state.waitTime machine.tap.destination) } := by
  rw [step_of_looping phase]
  unfold loop
  rw [beat_of_activeJitter_eq_some enabled]
  dsimp only
  -- The draw behind the wait is left closed.
  generalize machine.attempt world low high = made
  cases made.world.advance (loopWait made.nextWait) <;> rfl

/-- At the ceiling the role decides. -/
theorem step_of_ceiling (phase : machine.phase = .ceiling) :
    machine.step world = .ok (machine.applyRole world) := by
  unfold step
  rw [phase]

/-- The end of a stall needs the length of the whole stall. -/
theorem step_of_stallOver {window : Span} (phase : machine.phase = .stalling 0)
    (silence : machine.timing.stall.window? = some window) :
    machine.step world = .ok
      { machine := { machine with
          state := { machine.state with
            waitTime := min (machine.state.waitTime + Binary64.roundHalfUp window.number)
              maxCounter }
          phase := .looping }
        world := world
        event := .stallFinished
        notice := some .resuming } := by
  unfold step
  rw [phase]
  dsimp only
  unfold endStall
  rw [silence]
  rfl

/-- A step of a stall is a wait. -/
theorem step_of_stalling {remaining : Nat} {span : Span}
    (phase : machine.phase = .stalling (remaining + 1))
    (silence : machine.timing.stall.step? = some span) :
    machine.step world = (world.advance span).map fun later ↦
      { machine := { machine with phase := .stalling remaining }
        world := later
        event := .stalled remaining
        notice := some .silent } := by
  unfold step
  rw [phase]
  dsimp only
  unfold keepSilent
  rw [silence]
  show (world.advance span >>= fun later ↦ _) = _
  cases world.advance span <;> rfl

/-- A machine that has crashed stays as it is. -/
theorem step_of_crashed (phase : machine.phase = .crashed) :
    machine.step world = .ok ⟨machine, world, .crashed, none⟩ := by
  unfold step
  rw [phase]

/-- A step of a stall that is over shows that the length of the stall is a span. -/
theorem exists_window_of_step (phase : machine.phase = .stalling 0)
    (stepped : machine.step world = .ok outcome) :
    ∃ window, machine.timing.stall.window? = some window := by
  unfold step at stepped
  rw [phase] at stepped
  cases silence : machine.timing.stall.window? with
  | none => simp [endStall, spanOf, silence, bind, Except.bind] at stepped
  | some window => exact ⟨window, rfl⟩

/-- A step within a stall shows that the length of the step is a span. -/
theorem exists_span_of_step {remaining : Nat} (phase : machine.phase = .stalling (remaining + 1))
    (stepped : machine.step world = .ok outcome) :
    ∃ span, machine.timing.stall.step? = some span := by
  unfold step at stepped
  rw [phase] at stepped
  cases silence : machine.timing.stall.step? with
  | none => simp [keepSilent, spanOf, silence, bind, Except.bind] at stepped
  | some span => exact ⟨span, rfl⟩

/-! ### The list is complete -/

/-- A step does nothing but what is on the list. -/
theorem transition_of_step (stepped : machine.step world = .ok outcome) :
    Transition machine world outcome := by
  cases phase : machine.phase with
  | initialDelay =>
    rw [step_of_initialDelay phase, map_eq_ok_iff] at stepped
    obtain ⟨later, wait, rfl⟩ := stepped
    exact .delay phase wait
  | looping =>
    cases active : machine.activeJitter with
    | none =>
      rw [step_of_idle phase active, map_eq_ok_iff] at stepped
      obtain ⟨later, wait, rfl⟩ := stepped
      exact .idle phase active wait
    | some range =>
      rw [step_of_beat phase active, map_eq_ok_iff] at stepped
      obtain ⟨later, wait, rfl⟩ := stepped
      exact .beat phase active wait
  | ceiling =>
    rw [step_of_ceiling phase] at stepped
    cases stepped
    unfold applyRole
    split
    case h_1 role => exact .crash phase role
    case h_2 role => exact .fallSilent phase role
    case h_3 name role => exact .goOn phase role
  | stalling remaining =>
    cases remaining with
    | zero =>
      obtain ⟨window, silence⟩ := exists_window_of_step phase stepped
      rw [step_of_stallOver phase silence] at stepped
      cases stepped
      exact .endStall phase silence
    | succ remaining =>
      obtain ⟨span, silence⟩ := exists_span_of_step phase stepped
      rw [step_of_stalling phase silence, map_eq_ok_iff] at stepped
      obtain ⟨later, wait, rfl⟩ := stepped
      exact .keepSilent phase silence wait
  | crashed =>
    rw [step_of_crashed phase] at stepped
    cases stepped
    exact .rest phase

/-- Whatever is on the list is a step. -/
theorem Transition.step_eq (transition : Transition machine world outcome) :
    machine.step world = .ok outcome := by
  cases transition with
  | delay phase wait =>
    rw [step_of_initialDelay phase]
    exact map_eq_ok_iff.mpr ⟨_, wait, rfl⟩
  | idle phase disabled wait =>
    rw [step_of_idle phase disabled]
    exact map_eq_ok_iff.mpr ⟨_, wait, rfl⟩
  | beat phase enabled wait =>
    rw [step_of_beat phase enabled]
    exact map_eq_ok_iff.mpr ⟨_, wait, rfl⟩
  | crash phase role | fallSilent phase role | goOn phase role =>
    rw [step_of_ceiling phase]
    unfold applyRole
    rw [role]
  | endStall phase silence => exact step_of_stallOver phase silence
  | keepSilent phase silence wait =>
    rw [step_of_stalling phase silence]
    exact map_eq_ok_iff.mpr ⟨_, wait, rfl⟩
  | rest phase => exact step_of_crashed phase

/-- The transitions of a machine are the steps that it can make. -/
theorem step_eq_ok_iff : machine.step world = .ok outcome ↔ Transition machine world outcome :=
  ⟨transition_of_step, Transition.step_eq⟩

/-! ### What a machine was made with -/

/-- Two machines that were made in the same way: they agree on everything that no step changes. -/
structure SameMake (machine later : Machine) : Prop where
  config : later.config = machine.config
  role : later.role = machine.role
  timing : later.timing = machine.timing
  tap : later.tap = machine.tap
  label : later.label = machine.label
  pid : later.state.pid = machine.state.pid
  heartbeatEnabled : later.state.heartbeatEnabled = machine.state.heartbeatEnabled

theorem SameMake.refl (machine : Machine) : SameMake machine machine :=
  ⟨rfl, rfl, rfl, rfl, rfl, rfl, rfl⟩

theorem SameMake.trans {first middle last : Machine} (early : SameMake first middle)
    (late : SameMake middle last) : SameMake first last where
  config := late.config.trans early.config
  role := late.role.trans early.role
  timing := late.timing.trans early.timing
  tap := late.tap.trans early.tap
  label := late.label.trans early.label
  pid := late.pid.trans early.pid
  heartbeatEnabled := late.heartbeatEnabled.trans early.heartbeatEnabled

/-- Machines of the same make send the same heartbeat. -/
theorem SameMake.payload_eq {later : Machine} (same : SameMake machine later) :
    later.payload = machine.payload := by
  unfold payload
  rw [same.pid]

/-- Machines of the same make wait in the same range. -/
theorem SameMake.activeJitter_eq {later : Machine} (same : SameMake machine later) :
    later.activeJitter = machine.activeJitter := by
  unfold activeJitter
  rw [same.timing, same.heartbeatEnabled]

/-- A step changes nothing that the machine was made with. -/
theorem Transition.sameMake (transition : Transition machine world outcome) :
    SameMake machine outcome.machine := by
  cases transition <;> exact ⟨rfl, rfl, rfl, rfl, rfl, rfl, rfl⟩

/-- Once the loop has started its start does not change. -/
theorem Transition.startTime_eq (transition : Transition machine world outcome)
    (started : machine.phase ≠ .initialDelay) :
    outcome.machine.state.startTime = machine.state.startTime := by
  cases transition with
  | delay phase wait => exact absurd phase started
  | _ => rfl

/-- After a round of the loop a machine is in the loop or at the ceiling. -/
theorem Transition.turned (transition : Transition machine world outcome)
    (looping : machine.phase = .looping) :
    outcome.machine.phase = .looping ∨ outcome.machine.phase = .ceiling := by
  cases transition with
  | idle phase | beat phase =>
    simp only [checkCeiling]
    split
    · exact .inr rfl
    · exact .inl phase
  | delay phase | crash phase | fallSilent phase | goOn phase | endStall phase | keepSilent phase
  | rest phase => exact absurd (looping.symm.trans phase) (by simp)

/-- No step leads back to the initial delay. -/
theorem Transition.phase_ne_initialDelay (transition : Transition machine world outcome) :
    outcome.machine.phase ≠ .initialDelay := by
  intro back
  by_cases looping : machine.phase = .looping
  · rcases transition.turned looping with still | ceiling
    · exact absurd (back.symm.trans still) (by simp)
    · exact absurd (back.symm.trans ceiling) (by simp)
  · cases transition with
    | idle phase | beat phase => exact looping phase
    | rest phase => exact absurd (back.symm.trans phase) (by simp)
    | delay | crash | fallSilent | goOn | endStall | keepSilent => simp at back

/-- Only a machine with the role to crash crashes. -/
theorem Transition.ne_crashed (transition : Transition machine world outcome)
    (role : machine.role ≠ .crash) (running : machine.phase ≠ .crashed) :
    outcome.machine.phase ≠ .crashed ∧ outcome.event ≠ .crashed := by
  have turned (looping : machine.phase = .looping) : outcome.machine.phase ≠ .crashed := by
    rcases transition.turned looping with still | ceiling
    · simp [still]
    · simp [ceiling]
  cases transition with
  | idle phase => exact ⟨turned phase, by simp⟩
  | beat phase =>
    refine ⟨turned phase, ?_⟩
    unfold Attempt.event
    split <;> simp
  | crash phase crashes => exact absurd crashes role
  | rest phase => exact absurd phase running
  | delay | fallSilent | goOn | endStall | keepSilent => exact ⟨by simp, by simp⟩

end Machine

/-! ### The time that a step takes -/

/-- The time that the step of an event takes, given the stall plan of the machine. -/
def Event.duration (plan : StallPlan) : Event → Span
  | .initialDelay slept => slept
  | .heartbeatSent _ _ nextWait | .sendFailed _ nextWait => Machine.loopWait nextWait
  | .idle => idleWait
  | .stalled _ => plan.step?.getD Span.zero
  | .ceilingReached _ _ | .stallFinished | .crashed => Span.zero

namespace Machine

variable {machine : Machine} {world : World} {outcome : Outcome}

/-- The event of an attempt takes the wait after it, whether it failed or not. -/
theorem Attempt.duration_event (made : Attempt) (plan : StallPlan) (payload : Payload)
    (waitTime : Nat) : (made.event payload waitTime).duration plan = loopWait made.nextWait := by
  unfold Attempt.event
  cases made.result <;> rfl

/-- A step moves the clock by the time that its event takes, and by nothing else. -/
theorem Transition.advance_duration (transition : Transition machine world outcome) :
    world.clock.advance (outcome.event.duration machine.timing.stall) =
      .ok outcome.world.clock := by
  cases transition with
  | delay phase wait | idle phase disabled wait =>
    obtain ⟨clock, advanced, rfl⟩ := World.advance_eq_ok_iff.mp wait
    exact advanced
  | beat phase enabled wait =>
    obtain ⟨clock, advanced, rfl⟩ := World.advance_eq_ok_iff.mp wait
    rw [Attempt.duration_event]
    exact advanced
  | keepSilent phase silence wait =>
    obtain ⟨clock, advanced, rfl⟩ := World.advance_eq_ok_iff.mp wait
    simp only [Event.duration, silence, Option.getD_some]
    exact advanced
  | crash | fallSilent | goOn | endStall | rest => exact world.clock.advance_zero

/-- A step never sets the clock back. -/
theorem Transition.now_le (transition : Transition machine world outcome) :
    world.clock.now.nanos ≤ outcome.world.clock.now.nanos := by
  rw [Clock.nanos_now_of_advance transition.advance_duration]
  exact Nat.le_add_right _ _

/-- A step of a stall moves the clock by the step of its plan, if a clock can count that. -/
theorem Transition.now_eq_of_stalling {remaining : Nat} {step : Span}
    (transition : Transition machine world outcome)
    (phase : machine.phase = .stalling (remaining + 1))
    (planned : machine.timing.stall.step? = some step) (short : step.nanos < UInt64.size) :
    outcome.world.clock.now.nanos = world.clock.now.nanos + step.nanos := by
  cases transition with
  | keepSilent stalling silence wait =>
    obtain ⟨clock, advanced, rfl⟩ := World.advance_eq_ok_iff.mp wait
    rw [planned, Option.some_inj] at silence
    rw [Clock.nanos_now_of_advance advanced, ← silence, Nat.mod_eq_of_lt short]
  | delay other | idle other | beat other | crash other | fallSilent other | goOn other
  | endStall other | rest other => exact absurd (phase.symm.trans other) (by simp)

end Machine

end Heartbeat
