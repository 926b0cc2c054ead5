import Heartbeat.Proofs.SoleFault

/-!
# The delay moves a run in time

A machine measures time from the start of its loop, so the delay before the loop moves the whole run
and changes nothing else. Two runs of one instance with two delays are compared. Up to the start of
the loop nothing happens in either. From there on the clock, the start of the loop and the times of
events and datagrams are shifted by the difference of the sleeps, and everything else is the same
(`Progress.Shifted`). The delay itself is told twice, by the event of the initial delay and, as the
wait before it, by the first heartbeat; `retold` rewords these two.

A step keeps the shift if both runs can make it (`Machine.step_shifted`), and so does all that is
done from outside short of setting the clock. A run fails only if its clock cannot hold a sum, so
two runs that do not ask for that both come to an end (`Progress.follow_delayed`). The sleeps have
to fit the clock as well: a longer sleep is cut, and the shift is then another one.
-/

set_option autoImplicit false
set_option relaxedAutoImplicit false

namespace Heartbeat

/-! ### Computations in pairs -/

/-- Two computations whose results are related, if both have one. -/
def Paired {α β : Type} (related : α → β → Prop) (left : Except Fault α)
    (right : Except Fault β) : Prop :=
  ∀ first second, left = .ok first → right = .ok second → related first second

namespace Paired

variable {α β γ δ : Type} {related : α → β → Prop} {later : γ → δ → Prop}

theorem ok {first : α} {second : β} (both : related first second) :
    Paired related (.ok first) (.ok second) := by
  rintro _ _ ⟨⟩ ⟨⟩
  exact both

theorem error (fault : Fault) (right : Except Fault β) : Paired related (.error fault) right :=
  fun _ _ impossible _ ↦ nomatch impossible

/-- Results that are related are mapped to results that are related. -/
theorem map {left : Except Fault α} {right : Except Fault β} {f : α → γ} {g : β → δ}
    (paired : Paired related left right)
    (next : ∀ first second, related first second → later (f first) (g second)) :
    Paired later (left.map f) (right.map g) := by
  intro first second one other
  obtain ⟨before, computed, rfl⟩ := map_eq_ok_iff.mp one
  obtain ⟨also, obtained, rfl⟩ := map_eq_ok_iff.mp other
  exact next before also (paired before also computed obtained)

/-- Computations that go on from related results in related ways have related results. -/
theorem bind {left : Except Fault α} {right : Except Fault β} {f : α → Except Fault γ}
    {g : β → Except Fault δ} (paired : Paired related left right)
    (next : ∀ first second, related first second → Paired later (f first) (g second)) :
    Paired later (left.bind f) (right.bind g) := by
  intro first second one other
  obtain ⟨before, computed, rest⟩ := bind_eq_ok_iff.mp one
  obtain ⟨also, obtained, ending⟩ := bind_eq_ok_iff.mp other
  exact next before also (paired before also computed obtained) first second rest ending

end Paired

/-! ### Worlds at shifted times -/

/-- A clock that is ahead of another by a number of nanoseconds, or behind it by a negative one. -/
def Clock.Shifted (shift : ℤ) (left right : Clock) : Prop :=
  (right.now.nanos : ℤ) = left.now.nanos + shift

/-- The same datagram, delivered at a shifted time. -/
structure Datagram.Shifted (shift : ℤ) (left right : Datagram) : Prop where
  time : left.time.Shifted shift right.time
  bytes : right.bytes = left.bytes

/-- Recorders with the same outage flag, the same counters and the same datagrams at shifted
times. -/
structure Recorder.Shifted (shift : ℤ) (left right : Recorder) : Prop where
  sent : List.Forall₂ (Datagram.Shifted shift) left.sent.toList right.sent.toList
  unreachable : right.unreachable = left.unreachable
  attempts : right.attempts = left.attempts
  failures : right.failures = left.failures

/-- Worlds with the same keystream, whose clocks and datagrams are shifted. -/
structure World.Shifted (shift : ℤ) (left right : World) : Prop where
  clock : left.clock.Shifted shift right.clock
  stream : right.stream = left.stream
  recorder : left.recorder.Shifted shift right.recorder

section Worlds

variable {shift : ℤ}

theorem Clock.Shifted.advance {left right : Clock} (clocks : left.Shifted shift right)
    (span : Span) : Paired (Clock.Shifted shift) (left.advance span) (right.advance span) := by
  intro first second one other
  unfold Clock.Shifted at clocks ⊢
  have moved := Clock.nanos_now_of_advance one
  have also := Clock.nanos_now_of_advance other
  omega

/-- As long as the clocks can hold it, time passes in the same way in both worlds. -/
theorem World.Shifted.advance {left right : World} (worlds : left.Shifted shift right)
    (span : Span) : Paired (World.Shifted shift) (left.advance span) (right.advance span) :=
  (worlds.clock.advance span).map fun _ _ clocks ↦ ⟨clocks, worlds.stream, worlds.recorder⟩

/-- An attempt has the same result in both worlds. -/
theorem Tap.send_shifted (tap : Tap) {left right : Recorder} {time later : Clock}
    (recorders : left.Shifted shift right) (clocks : time.Shifted shift later)
    (bytes : List UInt8) :
    (tap.send right later bytes).1 = (tap.send left time bytes).1 ∧
      (tap.send left time bytes).2.Shifted shift (tap.send right later bytes).2 := by
  unfold send
  dsimp only
  rw [recorders.attempts, recorders.unreachable, recorders.failures]
  split
  · exact ⟨rfl, recorders.sent, rfl, rfl, rfl⟩
  · refine ⟨rfl, ?_, rfl, rfl, rfl⟩
    rw [Array.toList_push, Array.toList_push]
    exact List.rel_append recorders.sent (.cons ⟨clocks, rfl⟩ .nil)

/-- A recorder without datagrams has none to shift. -/
theorem Recorder.shifted_of_unsent {recorder : Recorder} (unsent : recorder.sent = #[]) :
    recorder.Shifted shift recorder := by
  refine ⟨?_, rfl, rfl, rfl⟩
  rw [unsent]
  exact .nil

/-- What is done from outside keeps the shift, unless the clock is set. -/
theorem World.Shifted.undergo {left right : World} (worlds : left.Shifted shift right)
    {intervention : Intervention} (unset : ∀ time, intervention ≠ .setTime time) :
    Paired (World.Shifted shift) (left.undergo intervention) (right.undergo intervention) := by
  cases intervention with
  | advance span => exact worlds.advance span
  | setTime time => exact absurd rfl (unset time)
  | setUnreachable unreachable =>
    obtain ⟨sent, -, attempts, failures⟩ := worlds.recorder
    exact .ok ⟨worlds.clock, worlds.stream, sent, rfl, attempts, failures⟩
  | draw low high =>
    refine .ok ⟨worlds.clock, ?_, worlds.recorder⟩
    exact congrArg (fun stream : Keystream ↦ (stream.draw low high).2) worlds.stream

end Worlds

/-! ### Machines that started at shifted times -/

/-- Machines that differ at most in what follows from the delay of the instance, in the wait time,
and by a shift in the start of the loop. -/
def Machine.Shifted (shift : ℤ) (left right : Machine) : Prop :=
  ∃ (delay : Int64) (initialSleep : Option Span) (initialWaitTime waitTime : ℕ) (startTime : Span),
    (startTime.nanos : ℤ) = left.state.startTime.nanos + shift ∧
    right = { left with
      config := { left.config with delay := delay }
      timing := { left.timing with
        initialSleep := initialSleep
        initialWaitTime := initialWaitTime }
      state := { left.state with
        waitTime := waitTime
        startTime := startTime } }

namespace Machine

/-- A machine of an instance with another delay, before its initial delay. -/
def delayed (machine : Machine) (delay : Int64) (initialSleep : Option Span) (waitTime : ℕ) :
    Machine :=
  { machine with
    config := { machine.config with delay := delay }
    timing := { machine.timing with
      initialSleep := initialSleep
      initialWaitTime := waitTime }
    state := { machine.state with waitTime := waitTime } }

/-- How the wait times of two machines compare, given whether they have made an attempt: without
heartbeats it does not matter, after an attempt they are the same, and before it the machines are
in the loop and the second one has a wait time of its own. -/
def Waits (waitTime : ℕ) (attempted : Bool) (left right : Machine) : Prop :=
  left.activeJitter = none ∨
    if attempted then right.state.waitTime = left.state.waitTime
    else left.phase = .looping ∧ right.state.waitTime = waitTime

variable {shift : ℤ} {left right : Machine} {here there : World}

theorem Shifted.phase_eq (machines : left.Shifted shift right) : right.phase = left.phase := by
  obtain ⟨delay, initialSleep, initialWaitTime, waitTime, startTime, started, rfl⟩ := machines
  rfl

theorem Shifted.activeJitter_eq (machines : left.Shifted shift right) :
    right.activeJitter = left.activeJitter := by
  obtain ⟨delay, initialSleep, initialWaitTime, waitTime, startTime, started, rfl⟩ := machines
  rfl

/-- At shifted times the same time has passed since the start of the loop. -/
theorem Shifted.checkCeiling (machines : left.Shifted shift right) {time later : Clock}
    (clocks : time.Shifted shift later) :
    (left.checkCeiling time).Shifted shift (right.checkCeiling later) := by
  obtain ⟨delay, initialSleep, initialWaitTime, waitTime, startTime, started, rfl⟩ := machines
  have elapsed : later.now - startTime = time.now - left.state.startTime := by
    unfold Clock.Shifted at clocks
    refine congrArg Span.mk ?_
    omega
  refine ⟨delay, initialSleep, initialWaitTime, waitTime, startTime, started, ?_⟩
  unfold Machine.checkCeiling
  dsimp only
  rw [elapsed]

/-- Outside the loop the wait times are the same or do not matter. -/
theorem Waits.elsewhere {waitTime : ℕ} {attempted : Bool}
    (waits : Waits waitTime attempted left right) (phase : left.phase ≠ .looping) :
    left.activeJitter = none ∨
      attempted = true ∧ right.state.waitTime = left.state.waitTime := by
  refine waits.imp_right fun compared ↦ ?_
  cases attempted with
  | true => exact ⟨rfl, compared⟩
  | false => exact absurd compared.1 phase

/-- An attempt is made in the same way by machines and in worlds that are shifted. -/
theorem attempt_shifted (machines : left.Shifted shift right) (worlds : here.Shifted shift there)
    (low high : UInt64) :
    (right.attempt there low high).result = (left.attempt here low high).result ∧
      (right.attempt there low high).nextWait = (left.attempt here low high).nextWait ∧
      (left.attempt here low high).world.Shifted shift (right.attempt there low high).world := by
  obtain ⟨delay, initialSleep, initialWaitTime, waitTime, startTime, started, rfl⟩ := machines
  obtain ⟨result, recorder⟩ :=
    left.tap.send_shifted worlds.recorder worlds.clock left.payload.bytes
  have drawn := congrArg (fun stream : Keystream ↦ stream.draw low high) worlds.stream
  exact ⟨result, congrArg (fun draw ↦ draw.1.toNat) drawn, worlds.clock,
    congrArg Prod.snd drawn, recorder⟩

end Machine

/-! ### What two runs tell -/

namespace Event

/-- An event told with another sleep and another wait before it. -/
def reworded (slept : Span) (waitTime : ℕ) : Event → Event
  | .initialDelay _ => .initialDelay slept
  | .heartbeatSent payload _ nextWait => .heartbeatSent payload waitTime nextWait
  | event => event

end Event

/-- The events of a run told with another sleep before the loop and another wait before the first
attempt. All that comes after the first attempt is told as it was. -/
def retold (slept : Span) (waitTime : ℕ) : List Event → List Event
  | [] => []
  | event :: rest => event.reworded slept waitTime ::
    if event.letter = .attempt then rest else retold slept waitTime rest

/-- Whether an attempt is among events. -/
def hasAttempt (events : List Event) : Bool :=
  events.any fun event ↦ event.letter = .attempt

theorem hasAttempt_concat (events : List Event) (last : Event) :
    hasAttempt (events ++ [last]) = (hasAttempt events || last.letter = .attempt) := by
  simp [hasAttempt]

theorem retold_concat (slept : Span) (waitTime : ℕ) (events : List Event) (last : Event) :
    retold slept waitTime (events ++ [last]) = retold slept waitTime events ++
      [if hasAttempt events then last else last.reworded slept waitTime] := by
  induction events with
  | nil => simp [retold, hasAttempt]
  | cons event events ih =>
    unfold hasAttempt at ih ⊢
    rw [List.cons_append, retold, retold, ih, List.any_cons]
    by_cases attempt : event.letter = .attempt <;> simp [attempt]

/-! ### One step -/

namespace Machine

/-- Outcomes that are shifted. The events are the same once an attempt has been made; before that
the sleep and the wait may be told in other words. -/
structure Outcome.Shifted (shift : ℤ) (slept : Span) (waitTime : ℕ) (attempted : Bool)
    (left right : Outcome) : Prop where
  machine : left.machine.Shifted shift right.machine
  waits : Waits waitTime (attempted || left.event.letter = .attempt) left.machine right.machine
  world : left.world.Shifted shift right.world
  event : right.event = if attempted then left.event else left.event.reworded slept waitTime

variable {shift : ℤ} {slept : Span} {waitTime : ℕ} {attempted : Bool} {left right : Machine}
  {here there : World}

/-- Outcomes with the same event, which tells neither of a sleep nor of a wait before it. -/
theorem Outcome.Shifted.of_plain {first second : Outcome}
    (machines : first.machine.Shifted shift second.machine)
    (worlds : first.world.Shifted shift second.world) (event : second.event = first.event)
    (plain : first.event.reworded slept waitTime = first.event)
    (waits : first.machine.activeJitter = none ∨
      attempted = true ∧ second.machine.state.waitTime = first.machine.state.waitTime) :
    Outcome.Shifted shift slept waitTime attempted first second := by
  refine ⟨machines, waits.imp_right ?_, worlds, ?_⟩
  · rintro ⟨rfl, same⟩
    exact same
  · rw [plain, ite_self, event]

/-- The event of an attempt is told with another wait before it. -/
theorem Attempt.reworded_event (made : Attempt) (payload : Payload) (before : ℕ) :
    (made.event payload before).reworded slept waitTime = made.event payload waitTime := by
  unfold Attempt.event
  cases made.result <;> rfl

/-- What two machines tell of an attempt differs at most in the wait before it. -/
theorem event_attempt_shifted {low high : UInt64} (active : left.activeJitter = some (low, high))
    (machines : left.Shifted shift right) (waits : Waits waitTime attempted left right)
    (worlds : here.Shifted shift there) :
    (right.attempt there low high).event right.payload right.state.waitTime =
      if attempted then (left.attempt here low high).event left.payload left.state.waitTime
      else ((left.attempt here low high).event left.payload left.state.waitTime).reworded slept
        waitTime := by
  obtain ⟨result, nextWait, -⟩ := attempt_shifted machines worlds low high
  have payload : right.payload = left.payload := by
    obtain ⟨delay, initialSleep, initialWaitTime, wait, startTime, moved, rfl⟩ := machines
    rfl
  have same (wait : ℕ) : (right.attempt there low high).event right.payload wait =
      (left.attempt here low high).event left.payload wait := by
    unfold Attempt.event
    rw [result, nextWait, payload]
  rw [same, Attempt.reworded_event]
  rcases waits with disabled | compared
  · exact absurd (disabled.symm.trans active) (by simp)
  · cases attempted with
    | true => exact congrArg _ compared
    | false => exact congrArg _ compared.2

/-- After their initial delays two machines that are shifted make steps that are shifted, if both
can make a step. -/
theorem step_shifted (machines : left.Shifted shift right)
    (waits : Waits waitTime attempted left right) (worlds : here.Shifted shift there)
    (started : left.phase ≠ .initialDelay) :
    Paired (Outcome.Shifted shift slept waitTime attempted) (left.step here)
      (right.step there) := by
  have phases := machines.phase_eq
  cases phase : left.phase with
  | initialDelay => exact absurd phase started
  | looping =>
    cases active : left.activeJitter with
    | none =>
      rw [step_of_idle phase active,
        step_of_idle (phases.trans phase) (machines.activeJitter_eq.trans active)]
      refine (worlds.advance _).map fun first second waited ↦ ?_
      exact .of_plain (machines.checkCeiling waited.clock) waited rfl rfl (.inl active)
    | some range =>
      obtain ⟨low, high⟩ := range
      obtain ⟨result, nextWait, sent⟩ := attempt_shifted machines worlds low high
      rw [step_of_beat phase active,
        step_of_beat (phases.trans phase) (machines.activeJitter_eq.trans active), nextWait]
      have event := @event_attempt_shifted _ slept _ _ _ _ _ _ _ _ active machines waits worlds
      obtain ⟨delay, initialSleep, initialWaitTime, wait, startTime, moved, rfl⟩ := machines
      refine (sent.advance _).map fun first second waited ↦ ⟨?_, .inr ?_, waited, event⟩
      · exact Shifted.checkCeiling ⟨delay, initialSleep, initialWaitTime, _, startTime, moved, rfl⟩
          waited.clock
      · rw [Attempt.letter_event, if_pos (by simp)]
        rfl
  | ceiling =>
    rw [step_of_ceiling phase, step_of_ceiling (phases.trans phase)]
    have compared := waits.elsewhere (by simp [phase])
    obtain ⟨delay, initialSleep, initialWaitTime, wait, startTime, moved, rfl⟩ := machines
    refine .ok ?_
    unfold applyRole
    dsimp only
    cases left.role with
    | crash | noHeartbeat | unrecognized name =>
      exact .of_plain ⟨delay, initialSleep, initialWaitTime, wait, startTime, moved, rfl⟩ worlds
        rfl rfl compared
  | stalling remaining =>
    have compared := waits.elsewhere (by simp [phase])
    cases remaining with
    | zero =>
      cases silence : left.timing.stall.window? with
      | none =>
        rw [step_of_noWindow phase silence]
        exact .error _ _
      | some window =>
        obtain ⟨delay, initialSleep, initialWaitTime, wait, startTime, moved, rfl⟩ := machines
        rw [step_of_stallOver phase silence, step_of_stallOver (phases.trans phase) silence]
        refine .ok (.of_plain ⟨delay, initialSleep, initialWaitTime, _, startTime, moved, rfl⟩
          worlds rfl rfl (compared.imp_right fun told ↦ ⟨told.1, ?_⟩))
        exact congrArg (fun before ↦
          min (before + Binary64.roundHalfUp window.number) maxCounter) told.2
    | succ remaining =>
      cases silence : left.timing.stall.step? with
      | none =>
        rw [step_of_noStep phase silence]
        exact .error _ _
      | some span =>
        obtain ⟨delay, initialSleep, initialWaitTime, wait, startTime, moved, rfl⟩ := machines
        rw [step_of_stalling phase silence, step_of_stalling (phases.trans phase) silence]
        refine (worlds.advance span).map fun first second waited ↦ ?_
        exact .of_plain ⟨delay, initialSleep, initialWaitTime, wait, startTime, moved, rfl⟩ waited
          rfl rfl compared
  | crashed =>
    rw [step_of_crashed phase, step_of_crashed (phases.trans phase)]
    exact .ok (.of_plain machines worlds rfl rfl (waits.elsewhere (by simp [phase])))

end Machine

/-! ### Runs -/

namespace Progress

/-- What two runs that are shifted have in common. All that is counted, drawn and told is the same,
except for the sleep and for the wait before the first attempt; all times since the start of the
loop are shifted. -/
structure Shifted (shift : ℤ) (slept : Span) (waitTime : ℕ) (left right : Progress) : Prop where
  phase : right.machine.phase = left.machine.phase
  elapsed : right.machine.state.elapsed = left.machine.state.elapsed
  ceilingNoted : right.machine.ceilingNoted = left.machine.ceilingNoted
  stream : right.world.stream = left.world.stream
  recorder : left.world.recorder.Shifted shift right.world.recorder
  times : List.Forall₂ (fun first second ↦ first.time.Shifted shift second.time)
    left.events.toList right.events.toList
  events : right.events.toList.map Stamped.event =
    retold slept waitTime (left.events.toList.map Stamped.event)
  clock : left.machine.phase ≠ .initialDelay → left.world.clock.Shifted shift right.world.clock
  startTime : left.machine.phase ≠ .initialDelay →
    (right.machine.state.startTime.nanos : ℤ) = left.machine.state.startTime.nanos + shift

/-- Two runs that are shifted and have started their loops. -/
structure Underway (shift : ℤ) (slept : Span) (waitTime : ℕ) (left right : Progress) : Prop where
  started : left.machine.phase ≠ .initialDelay
  machine : left.machine.Shifted shift right.machine
  waits : Machine.Waits waitTime (hasAttempt (left.events.toList.map Stamped.event)) left.machine
    right.machine
  world : left.world.Shifted shift right.world
  times : List.Forall₂ (fun first second ↦ first.time.Shifted shift second.time)
    left.events.toList right.events.toList
  events : right.events.toList.map Stamped.event =
    retold slept waitTime (left.events.toList.map Stamped.event)

section Underway

variable {shift : ℤ} {slept : Span} {waitTime : ℕ} {left right : Progress}

theorem Underway.shifted (underway : Underway shift slept waitTime left right) :
    Shifted shift slept waitTime left right := by
  obtain ⟨-, machine, -, world, times, events⟩ := underway
  have clock := world.clock
  obtain ⟨delay, initialSleep, initialWaitTime, wait, startTime, moved, made⟩ := machine
  constructor
  case phase | elapsed | ceilingNoted => rw [made]
  case stream => exact world.stream
  case recorder => exact world.recorder
  case times => exact times
  case events => exact events
  case clock => exact fun _ ↦ clock
  case startTime =>
    rw [made]
    exact fun _ ↦ moved

theorem map_event_after (events : Array Stamped) (notices : Array Notice)
    (outcome : Machine.Outcome) :
    (after events notices outcome).events.toList.map Stamped.event =
      events.toList.map Stamped.event ++ [outcome.event] := by
  simp [after]

/-- A step of both runs keeps them shifted. -/
theorem Underway.step (underway : Underway shift slept waitTime left right) :
    Paired (Underway shift slept waitTime) (left.move .step) (right.move .step) := by
  intro first second one other
  obtain ⟨outcome, transition, rfl⟩ := move_step_eq_ok_iff.mp one
  obtain ⟨also, further, rfl⟩ := move_step_eq_ok_iff.mp other
  have shifted : Machine.Outcome.Shifted shift slept waitTime _ outcome also :=
    Machine.step_shifted underway.machine underway.waits underway.world underway.started outcome
      also transition.step_eq further.step_eq
  constructor
  case started => exact transition.phase_ne_initialDelay
  case machine => exact shifted.machine
  case waits =>
    rw [map_event_after, hasAttempt_concat]
    exact shifted.waits
  case world => exact shifted.world
  case times =>
    simp only [after, Array.toList_push]
    exact List.rel_append underway.times (.cons shifted.world.clock .nil)
  case events =>
    rw [map_event_after, map_event_after, retold_concat, underway.events, shifted.event]

/-- What is done from outside in both runs keeps them shifted, unless the clock is set. -/
theorem Underway.outside (underway : Underway shift slept waitTime left right)
    {intervention : Intervention} (unset : ∀ time, intervention ≠ .setTime time) :
    Paired (Underway shift slept waitTime) (left.move (.outside intervention))
      (right.move (.outside intervention)) :=
  (underway.world.undergo unset).map fun _ _ worlds ↦
    ⟨underway.started, underway.machine, underway.waits, worlds, underway.times, underway.events⟩

end Underway

/-- The sleeps before the loop shift one run against the other. -/
theorem underway_of_sleep {machine : Machine} (delaying : machine.phase = .initialDelay)
    {world : World} (unsent : world.recorder.sent = #[]) (delay : Int64)
    (initialSleep : Option Span) (waitTime : ℕ) {shift : ℤ}
    (sleeps : (((initialSleep.getD Span.zero).nanos % UInt64.size : ℕ) : ℤ) =
      ((machine.timing.initialSleep.getD Span.zero).nanos % UInt64.size : ℕ) + shift) :
    Paired (Underway shift (initialSleep.getD Span.zero) waitTime)
      ((start machine world).move .step)
      ((start (machine.delayed delay initialSleep waitTime) world).move .step) := by
  intro first second one other
  obtain ⟨outcome, stepped, rfl⟩ := map_eq_ok_iff.mp one
  obtain ⟨also, made, rfl⟩ := map_eq_ok_iff.mp other
  change machine.step world = _ at stepped
  change (machine.delayed delay initialSleep waitTime).step world = _ at made
  rw [Machine.step_of_initialDelay delaying, map_eq_ok_iff] at stepped
  rw [Machine.step_of_initialDelay (by exact delaying), map_eq_ok_iff] at made
  obtain ⟨later, wait, rfl⟩ := stepped
  obtain ⟨latest, longer, rfl⟩ := made
  obtain ⟨clock, advanced, rfl⟩ := World.advance_eq_ok_iff.mp wait
  obtain ⟨next, further, rfl⟩ := World.advance_eq_ok_iff.mp longer
  have clocks : clock.Shifted shift next := by
    have moved : clock.now.nanos = world.clock.now.nanos +
        (machine.timing.initialSleep.getD Span.zero).nanos % UInt64.size :=
      Clock.nanos_now_of_advance advanced
    have also : next.now.nanos = world.clock.now.nanos +
        (initialSleep.getD Span.zero).nanos % UInt64.size := Clock.nanos_now_of_advance further
    unfold Clock.Shifted
    omega
  constructor
  case started => simp [after]
  case machine => exact ⟨delay, initialSleep, waitTime, waitTime, next.now, clocks, rfl⟩
  case waits => exact .inr ⟨rfl, rfl⟩
  case world => exact ⟨clocks, rfl, Recorder.shifted_of_unsent unsent⟩
  case times => exact .cons clocks .nil
  case events => rfl

end Progress

/-! ### From the making of the machines -/

/-- The same instance with another delay. -/
def Instance.delayed (config : Instance) (delay : Int64) : Instance :=
  { config with delay := delay }

/-- By how much an instance with another delay starts its loop later, in nanoseconds: the difference
of the sleeps, each of them one second shorter than the delay and no shorter than nothing. -/
def Instance.shift (config : Instance) (delay : Int64) : ℤ :=
  (max (delay.toInt - 1) 0 - max (config.delay.toInt - 1) 0) * Span.perSecond

theorem Instance.sleep_delayed (config : Instance) (delay : Int64) :
    ((config.delayed delay).sleep : ℤ) = config.sleep + config.shift delay := by
  unfold shift sleep delayed Span.ofSeconds
  push_cast
  rw [Int.toNat_eq_max, Int.toNat_eq_max]
  ring

/-- The sleep of an instance before its loop. -/
theorem Timing.initialSleep_getD (config : Instance) :
    (Timing.ofInstance config).initialSleep.getD Span.zero =
      Span.ofSeconds (config.delay.toInt - 1).toNat :=
  congrArg Span.mk (Progress.nanos_initialSleep config)

/-- The machine of an instance with another delay is the machine of the instance, delayed. -/
theorem Machine.create_delayed (config : Instance) (delay : Int64) (role : Role) (tap : Tap)
    (pid : UInt32) (time : Clock) :
    create (config.delayed delay) role tap pid time =
      (create config role tap pid time).delayed delay
        (Timing.ofInstance (config.delayed delay)).initialSleep delay.toInt.toNat := rfl

namespace Progress

/-- Two runs of an instance with two delays: both machines still have their delays before them, in
one world without datagrams, or they have started their loops. -/
inductive Delayed (machine : Machine) (delay : Int64) (initialSleep : Option Span)
    (waitTime : ℕ) (shift : ℤ) : Progress → Progress → Prop
  | waiting (world : World) (unsent : world.recorder.sent = #[]) :
      Delayed machine delay initialSleep waitTime shift (start machine world)
        (start (machine.delayed delay initialSleep waitTime) world)
  | underway {left right : Progress}
      (both : Underway shift (initialSleep.getD Span.zero) waitTime left right) :
      Delayed machine delay initialSleep waitTime shift left right

section Delayed

variable {machine : Machine} {delay : Int64} {initialSleep : Option Span} {waitTime : ℕ}
  {shift : ℤ} {left right : Progress}

theorem Delayed.shifted (delaying : machine.phase = .initialDelay)
    (delayed : Delayed machine delay initialSleep waitTime shift left right) :
    Shifted shift (initialSleep.getD Span.zero) waitTime left right := by
  cases delayed with
  | waiting world unsent =>
    exact ⟨rfl, rfl, rfl, rfl, Recorder.shifted_of_unsent unsent, .nil, rfl,
      fun started ↦ absurd delaying started, fun started ↦ absurd delaying started⟩
  | underway both => exact both.shifted

/-- Any move but to set the clock keeps what two runs have in common. -/
theorem Delayed.move (delaying : machine.phase = .initialDelay)
    (sleeps : (((initialSleep.getD Span.zero).nanos % UInt64.size : ℕ) : ℤ) =
      ((machine.timing.initialSleep.getD Span.zero).nanos % UInt64.size : ℕ) + shift)
    (delayed : Delayed machine delay initialSleep waitTime shift left right) {made : Move}
    (unset : ∀ time, made ≠ .outside (.setTime time)) :
    Paired (Delayed machine delay initialSleep waitTime shift) (left.move made)
      (right.move made) := by
  intro first second one other
  cases made with
  | step =>
    refine .underway ?_
    cases delayed with
    | waiting world unsent =>
      exact underway_of_sleep delaying unsent delay initialSleep waitTime sleeps first second one
        other
    | underway both => exact both.step first second one other
  | outside intervention =>
    cases delayed with
    | waiting world unsent =>
      obtain ⟨later, undergone, rfl⟩ := exists_world_of_move_outside one
      obtain ⟨also, same, rfl⟩ := exists_world_of_move_outside other
      cases undergone.symm.trans same
      exact .waiting later ((World.recorder_of_undergo undergone).1.trans unsent)
    | underway both =>
      have spared : ∀ time, intervention ≠ .setTime time :=
        fun time set ↦ unset time (congrArg Move.outside set)
      exact .underway (both.outside spared first second one other)

theorem Delayed.follow (delaying : machine.phase = .initialDelay)
    (sleeps : (((initialSleep.getD Span.zero).nanos % UInt64.size : ℕ) : ℤ) =
      ((machine.timing.initialSleep.getD Span.zero).nanos % UInt64.size : ℕ) + shift)
    {moves : List Move} (unset : ∀ time, Move.outside (.setTime time) ∉ moves)
    (delayed : Delayed machine delay initialSleep waitTime shift left right) :
    Paired (Delayed machine delay initialSleep waitTime shift) (left.follow moves)
      (right.follow moves) := by
  induction moves generalizing left right with
  | nil => exact .ok delayed
  | cons made moves ih =>
    rw [follow_cons, follow_cons]
    have first : ∀ time, made ≠ .outside (.setTime time) :=
      fun time set ↦ unset time (set ▸ List.mem_cons_self)
    exact (delayed.move delaying sleeps first).bind fun _ _ both ↦
      ih (fun time member ↦ unset time (List.mem_cons_of_mem made member)) both

end Delayed

theorem fresh_delayed (config : Instance) (delay : Int64) (role : Role) (tap : Tap)
    (pid : UInt32) (world : World) :
    fresh (config.delayed delay) role tap pid world =
      start ((Machine.create config role tap pid world.clock).delayed delay
        (Timing.ofInstance (config.delayed delay)).initialSleep delay.toInt.toNat) world :=
  congrArg (start · world) (Machine.create_delayed config delay role tap pid world.clock)

/-- A run of the machine of an instance that does not ask its clock for too much comes to its
end. -/
theorem exists_follow_fresh (config : Instance) (role : Role) (tap : Tap) (pid : UInt32)
    (world : World) {moves : List Move}
    (fits : (fresh config role tap pid world).follow moves ≠ .error .clockOverflow) :
    ∃ last, (fresh config role tap pid world).follow moves = .ok last := by
  cases followed : (fresh config role tap pid world).follow moves with
  | ok last => exact ⟨last, rfl⟩
  | error fault =>
    have sound := Machine.sound_create config role tap pid world.clock .plain
    have only : fault = .clockOverflow := fault_eq_of_follow sound followed
    exact absurd (only ▸ followed) fits

/-- Runs of an instance with two delays in one world without datagrams are shifted, if the clock can
count both sleeps and both runs come to their ends. -/
theorem shifted_of_follow {config : Instance} {delay : Int64} {role : Role} {tap : Tap}
    {pid : UInt32} {world : World} (unsent : world.recorder.sent = #[]) {moves : List Move}
    (unset : ∀ time, Move.outside (.setTime time) ∉ moves) (short : config.sleep < UInt64.size)
    (late : (config.delayed delay).sleep < UInt64.size) {left right : Progress}
    (followed : (fresh config role tap pid world).follow moves = .ok left)
    (delayed : (fresh (config.delayed delay) role tap pid world).follow moves = .ok right) :
    Shifted (config.shift delay) (Span.ofSeconds (delay.toInt - 1).toNat) delay.toInt.toNat left
      right := by
  rw [fresh_delayed] at delayed
  have early : ((Timing.ofInstance config).initialSleep.getD Span.zero).nanos = config.sleep :=
    nanos_initialSleep config
  have slept : ((Timing.ofInstance (config.delayed delay)).initialSleep.getD Span.zero).nanos =
      (config.delayed delay).sleep := nanos_initialSleep (config.delayed delay)
  have sleeps : ((((Timing.ofInstance (config.delayed delay)).initialSleep.getD
      Span.zero).nanos % UInt64.size : ℕ) : ℤ) =
        (((Timing.ofInstance config).initialSleep.getD Span.zero).nanos % UInt64.size : ℕ) +
          config.shift delay := by
    rw [early, slept, Nat.mod_eq_of_lt short, Nat.mod_eq_of_lt late]
    exact config.sleep_delayed delay
  have delaying : (Machine.create config role tap pid world.clock).phase = .initialDelay := rfl
  have both := (Delayed.waiting world unsent).follow delaying sleeps unset left right followed
    delayed
  have shifted := both.shifted delaying
  rw [Timing.initialSleep_getD] at shifted
  exact shifted

/-- The delay moves a run in time and changes nothing else. Two instances that differ in their
delays make the same moves, with the same role, failures and seed; nobody sets the clock. If the
clock can count both sleeps, and neither run asks it for more than it can hold, then both runs come
to their ends, and the second one is the first one shifted by the difference of the sleeps. Their
events differ at most in the sleep and in the wait before the first attempt. -/
theorem follow_delayed (config : Instance) (delay : Int64) (role : Role) (tap : Tap)
    (pid : UInt32) (seed : UInt64) {moves : List Move}
    (unset : ∀ time, Move.outside (.setTime time) ∉ moves) (short : config.sleep < UInt64.size)
    (late : (config.delayed delay).sleep < UInt64.size)
    (fits : (fresh config role tap pid (World.ofSeed seed)).follow moves ≠ .error .clockOverflow)
    (lateFits : (fresh (config.delayed delay) role tap pid (World.ofSeed seed)).follow moves ≠
      .error .clockOverflow) :
    ∃ left right, (fresh config role tap pid (World.ofSeed seed)).follow moves = .ok left ∧
      (fresh (config.delayed delay) role tap pid (World.ofSeed seed)).follow moves = .ok right ∧
      Shifted (config.shift delay) (Span.ofSeconds (delay.toInt - 1).toNat) delay.toInt.toNat left
        right := by
  obtain ⟨left, followed⟩ := exists_follow_fresh config role tap pid _ fits
  obtain ⟨right, delayed⟩ := exists_follow_fresh (config.delayed delay) role tap pid _ lateFits
  refine ⟨left, right, followed, delayed, ?_⟩
  exact shifted_of_follow rfl unset short late followed delayed

/-- A machine that falls silent, with a lossy tap, an outage and two hundred and forty steps: with a
delay of five seconds it does the same as with none, four seconds later. -/
theorem follow_delayed_five_seconds :
    (∀ time, Move.outside (.setTime time) ∉ (Schedule.outage 3 8).moves 240) ∧
    Instance.shift ⟨2, "idler", 0, 3, 12345⟩ 5 = 4000000000 ∧ ∃ left right,
      (fresh ⟨2, "idler", 0, 3, 12345⟩ .noHeartbeat ⟨12345, 3⟩ 1007 (World.ofSeed 7)).follow
        ((Schedule.outage 3 8).moves 240) = .ok left ∧
      (fresh ⟨2, "idler", 5, 3, 12345⟩ .noHeartbeat ⟨12345, 3⟩ 1007 (World.ofSeed 7)).follow
        ((Schedule.outage 3 8).moves 240) = .ok right ∧
      Shifted (Instance.shift ⟨2, "idler", 0, 3, 12345⟩ 5) (Span.ofSeconds 4) 5 left right := by
  have unset : ∀ time, Move.outside (.setTime time) ∉ (Schedule.outage 3 8).moves 240 :=
    fun time member ↦ nomatch (Schedule.outage_sparesClock 3 8).moves 240 _ member
  obtain ⟨left, followed⟩ := exists_of_isOk (show ((fresh ⟨2, "idler", 0, 3, 12345⟩ .noHeartbeat
    ⟨12345, 3⟩ 1007 (World.ofSeed 7)).follow ((Schedule.outage 3 8).moves 240)).isOk = true by
      decide +kernel)
  obtain ⟨right, delayed⟩ := exists_of_isOk (show ((fresh ⟨2, "idler", 5, 3, 12345⟩ .noHeartbeat
    ⟨12345, 3⟩ 1007 (World.ofSeed 7)).follow ((Schedule.outage 3 8).moves 240)).isOk = true by
      decide +kernel)
  exact ⟨unset, by decide, follow_delayed ⟨2, "idler", 0, 3, 12345⟩ 5 .noHeartbeat ⟨12345, 3⟩ 1007 7
    unset (by decide) (by decide) (by rw [followed]; simp) (by
      rw [show Instance.delayed ⟨2, "idler", 0, 3, 12345⟩ 5 = ⟨2, "idler", 5, 3, 12345⟩ from rfl,
        delayed]
      simp)⟩

end Progress

end Heartbeat
