import Heartbeat.Proofs.CrashScenarios
import Heartbeat.Proofs.Interference
import Heartbeat.Proofs.StallLength

/-!
# The account of time

The event of a step tells how long the step meant to wait, and the times of the events tell how long
it waited. `Trace.lapses` pairs each event with the time before it, and `Timed` compares the two:
the time that went by is the time that was meant exactly when a clock of 64 bits can count that in
nanoseconds, because a longer span is cut on its way to the clock (`Clock.now_eq_add_iff`).

Only two kinds of steps can mean to wait so long, the initial delay and the wait after an attempt,
and only for a delay or an interval of more than 18,446,744,073 seconds. A step of a stall cannot:
before it the clock has counted the whole observation window, and the step of an interval with such
a window is short enough (`Transition.overlong`). `Drive.accounts_for_time` is the statement for
every trace, and `Drive.overslept` a run whose initial delay is cut.
-/

set_option autoImplicit false
set_option relaxedAutoImplicit false

namespace Heartbeat

open Machine (SameMake Transition)

/-! ### Lapses -/

/-- A clock that was advanced by a span shows the sum exactly when it can count the span. -/
theorem Clock.now_eq_add_iff {clock later : Clock} {span : Span}
    (advanced : clock.advance span = .ok later) :
    later.now = clock.now + span ↔ span.nanos < UInt64.size := by
  have moved := nanos_now_of_advance advanced
  constructor
  · intro exact
    have shown : later.now.nanos = clock.now.nanos + span.nanos := congrArg Span.nanos exact
    have rest := Nat.mod_lt span.nanos (by decide : 0 < UInt64.size)
    omega
  · intro counts
    rw [Nat.mod_eq_of_lt counts] at moved
    exact congrArg Span.mk moved

/-- Each event with the time before it, which is that of the event before or, for the first one, a
given time. -/
def lapsesOf : Clock → List Stamped → List (Clock × Stamped)
  | _, [] => []
  | before, first :: rest => (before, first) :: lapsesOf first.time rest

/-- The lapses of a trace, from the start of the clock on. -/
def Trace.lapses (trace : Trace) : List (Clock × Stamped) :=
  lapsesOf Clock.start trace.events.toList

/-- One more event is one more lapse. -/
theorem lapsesOf_concat (before : Clock) (events : List Stamped) (last : Stamped) :
    lapsesOf before (events ++ [last]) = lapsesOf before events ++
      [((events.getLast?.map Stamped.time).getD before, last)] := by
  induction events generalizing before with
  | nil => rfl
  | cons first rest ih =>
    rw [List.cons_append, lapsesOf, ih, List.getLast?_cons]
    cases rest.getLast? <;> rfl

/-- The account of a lapse: the time that went by is what the event tells, exactly when a clock can
count that, and only the initial delay and the wait after an attempt can be longer. -/
structure Timed (config : Instance) (lapse : Clock × Stamped) : Prop where
  exact_iff : lapse.2.time.now =
      lapse.1.now + lapse.2.event.duration (StallPlan.ofInterval config.interval) ↔
    (lapse.2.event.duration (StallPlan.ofInterval config.interval)).nanos < UInt64.size
  overlong : UInt64.size ≤
      (lapse.2.event.duration (StallPlan.ofInterval config.interval)).nanos →
    (lapse.2.event.letter = .initialDelay ∧ UInt64.size ≤ config.sleep) ∨
      (lapse.2.event.letter = .attempt ∧
        UInt64.size ≤ (Span.ofSeconds (config.interval.toInt.toNat / 2)).nanos)

/-! ### One step -/

namespace Machine

variable {machine : Machine} {world : World} {outcome : Outcome}

/-- On a clock that only the machine moves the elapsed time is a time that has gone by. -/
theorem Transition.elapsed_le (transition : Transition machine world outcome)
    (before : machine.state.elapsed ≤ world.clock.now) :
    outcome.machine.state.elapsed ≤ outcome.world.clock.now := by
  by_cases looping : machine.phase = .looping
  · rw [(transition.isRound looping).elapsed]
    exact Nat.sub_le _ _
  · have still : outcome.machine.state.elapsed = machine.state.elapsed := by
      cases transition with
      | idle phase | beat phase => exact absurd phase looping
      | delay | crash | fallSilent | goOn | endStall | keepSilent | rest => rfl
    rw [still]
    exact Nat.le_trans before transition.now_le

/-- A step of the stall of an instance is shorter than what a clock can count, if its observation
window is not longer than that. -/
theorem step_nanos_lt {interval : Int64} {step : Span}
    (planned : (StallPlan.ofInterval interval).step? = some step)
    (window : observationWindow interval < UInt64.size) : step.nanos < UInt64.size := by
  obtain ⟨found, made, -, most⟩ := StallPlan.exists_long_step interval
  have next := StallPlan.nextSecond_le interval
  obtain rfl : found = step := Option.some_inj.mp (made.symm.trans planned)
  unfold observationWindow maxRuntime fiveIntervals ceilingMultiplier maxCounter Span.ofSeconds
    Span.perSecond UInt64.size at window
  have size : UInt64.size = 18446744073709551616 := rfl
  dsimp only at window
  omega

/-- Only the initial delay and the wait after an attempt can be longer than what a clock can count,
and only if the delay or the interval of the instance is. -/
theorem Transition.overlong {config : Instance} (transition : Transition machine world outcome)
    (times : machine.timing = Timing.ofInstance config)
    (range : machine.activeJitter = jitterBounds config.interval) (coherent : Coherent machine)
    (elapsed : machine.state.elapsed ≤ world.clock.now)
    (long : UInt64.size ≤
      (outcome.event.duration (StallPlan.ofInterval config.interval)).nanos) :
    (outcome.event.letter = .initialDelay ∧ UInt64.size ≤ config.sleep) ∨
      (outcome.event.letter = .attempt ∧
        UInt64.size ≤ (Span.ofSeconds (config.interval.toInt.toNat / 2)).nanos) := by
  have size : UInt64.size = 18446744073709551616 := rfl
  cases transition with
  | delay phase =>
    rw [times] at long
    exact .inl ⟨rfl, (Progress.nanos_initialSleep config).subst long⟩
  | idle =>
    have second : idleWait.nanos = 1000000000 := rfl
    change _ ≤ idleWait.nanos at long
    omega
  | beat phase enabled =>
    rw [Attempt.duration_event, nanos_loopWait] at long
    have short : ¬ UInt64.size ≤ (Span.ofMillis 1).nanos := by decide
    have waits := (le_max_iff.mp long).resolve_right short
    have most := (@nextWait_attempt_mem_range machine world _ _ _ (range.symm.trans enabled)).2
    exact .inr ⟨Attempt.letter_event _ _ _, waits.trans (Nat.mul_le_mul_right _ most)⟩
  | @keepSilent remaining span later phase silence wait =>
    have closed := coherent.closed (by rw [phase]; rfl)
    rw [times] at closed silence
    have passed : observationWindow config.interval ≤ world.clock.now.nanos :=
      Nat.le_trans closed elapsed
    have short := step_nanos_lt silence (passed.trans_lt world.clock.nanos_now_lt)
    have planned : Event.duration (StallPlan.ofInterval config.interval) (.stalled remaining) =
        span := congrArg (Option.getD · Span.zero) silence
    rw [planned] at long
    omega
  | crash | fallSilent | goOn | endStall | rest =>
    change _ ≤ 0 at long
    omega

end Machine

/-! ### A whole run -/

namespace Progress

/-- A run that keeps the time: all its lapses are timed, and the clock shows the time of the last
event. -/
structure KeepsTime (made : Machine) (config : Instance) (progress : Progress) : Prop where
  same : SameMake made progress.machine
  coherent : progress.machine.Coherent
  elapsed_le : progress.machine.state.elapsed ≤ progress.world.clock.now
  latest : (progress.events.toList.getLast?.map Stamped.time).getD Clock.start =
    progress.world.clock
  lapses : ∀ lapse ∈ lapsesOf Clock.start progress.events.toList, Timed config lapse

theorem kept_keepsTime {made : Machine} {config : Instance}
    (times : made.timing = Timing.ofInstance config)
    (range : made.activeJitter = jitterBounds config.interval) : Kept (KeepsTime made config) := by
  intro progress outcome timely transition
  have same := timely.same
  have events : (after progress.events progress.notices outcome).events.toList =
      progress.events.toList ++ [⟨outcome.world.clock, outcome.event⟩] := Array.toList_push
  refine ⟨same.trans transition.sameMake, Machine.lasting_coherent _ _ _ timely.coherent
    transition, transition.elapsed_le timely.elapsed_le, ?_, ?_⟩
  · rw [events, List.getLast?_concat]
    rfl
  · intro lapse member
    rw [events, lapsesOf_concat, timely.latest] at member
    rcases List.mem_append.mp member with old | new
    · exact timely.lapses lapse old
    · rw [List.mem_singleton.mp new]
      have advanced := transition.advance_duration
      rw [same.timing, times] at advanced
      exact ⟨Clock.now_eq_add_iff advanced, transition.overlong (same.timing.trans times)
        (same.activeJitter_eq.trans range) timely.coherent timely.elapsed_le⟩

end Progress

namespace Drive

open Progress

variable {drive : Drive} {config : Instance} {last : Progress}

theorem keepsTime (ran : drive.progress config = .ok last) :
    KeepsTime (drive.machine config) config last :=
  holds_of_kept (kept_keepsTime rfl (Machine.activeJitter_create _ _ _ _ _))
    ⟨SameMake.refl _, .of_early rfl, Nat.zero_le _, rfl,
      fun _ member ↦ absurd member List.not_mem_nil⟩ ran

/-- The loop of a run with a horizon starts after the sleep of its instance, as far as a clock can
count it. -/
theorem started (positive : 0 < drive.horizon.nanos) (ran : drive.progress config = .ok last) :
    Started ⟨config.sleep % UInt64.size⟩ last := by
  have steps : Progress.run drive.goesOn ends (999999 + 1) (drive.start config) = .ok last :=
    progress_eq_ok_iff.mp ran
  obtain ⟨outcome, transition, course⟩ := exists_of_run_succ steps (goesOn_iff.mpr positive)
  have begun : Started ⟨config.sleep % UInt64.size⟩
      (after (drive.start config).events (drive.start config).notices outcome) := by
    have delaying : (drive.start config).machine.phase = .initialDelay := rfl
    cases transition with
    | @delay later phase wait =>
      obtain ⟨clock, advanced, rfl⟩ := World.advance_eq_ok_iff.mp wait
      have moved := Clock.nanos_now_of_advance advanced
      have sleep : ((drive.start config).machine.timing.initialSleep.getD Span.zero).nanos =
          config.sleep := nanos_initialSleep config
      rw [sleep] at moved
      exact ⟨by simp [after], congrArg Span.mk (moved.trans (Nat.zero_add _))⟩
    | idle phase | beat phase | crash phase | fallSilent phase | goOn phase | endStall phase
    | keepSilent phase | rest phase => exact absurd (delaying.symm.trans phase) (by simp)
  rcases course with ⟨-, rfl⟩ | ⟨-, rest⟩
  · exact begun
  · exact (kept_started _).run begun rest

/-- A run shows the start of its loop exactly after the sleep of its instance, if it has a horizon
and a clock can count the sleep. -/
theorem loopStartedAt_eq_some_iff (ran : drive.progress config = .ok last) :
    last.trace.loopStartedAt = some ⟨config.sleep⟩ ↔
      0 < drive.horizon.nanos ∧ config.sleep < UInt64.size := by
  by_cases positive : 0 < drive.horizon.nanos
  · rw [(opened ran).loopStartedAt_eq (started positive ran), Option.some_inj, Span.mk.injEq,
      and_iff_right positive]
    constructor
    · intro exact
      rw [← exact]
      exact Nat.mod_lt _ (by decide)
    · exact Nat.mod_eq_of_lt
  · have stopped : drive.goesOn (drive.start config).world = false := by
      rw [← Bool.not_eq_true, goesOn_iff]
      exact fun early ↦ positive (Nat.zero_lt_of_lt early)
    have steps := progress_eq_ok_iff.mp ran
    rw [run_of_stopped stopped] at steps
    cases steps
    constructor
    · intro found
      cases found
    · exact fun both ↦ absurd both.1 positive

/-- The account of time of every drive that has a trace. The time between an event and the one
before it is the time that its step asked for exactly if a clock can count that. Only the initial
delay and the wait after an attempt can ask for more, and only if the delay or the interval is of
more than 18,446,744,073 seconds. So the loop is found to start at the delay less one second, if the
drive has a horizon and a clock can count that. -/
theorem accounts_for_time {driven : Driven} {trace : Trace} (ran : drive.run = .ok driven)
    (observed : driven.trace = .ok trace) :
    ∃ config, resolution drive.settings drive.index = .ok (.ok config) ∧
      (∀ lapse ∈ trace.lapses,
        let span := lapse.2.event.duration (StallPlan.ofInterval config.interval)
        (lapse.2.time.now = lapse.1.now + span ↔ span.nanos < UInt64.size) ∧
        (UInt64.size ≤ span.nanos →
          (lapse.2.event.letter = .initialDelay ∧
            UInt64.size ≤ (Span.ofSeconds (config.delay.toInt - 1).toNat).nanos) ∨
          (lapse.2.event.letter = .attempt ∧ UInt64.size ≤
            (Span.ofSeconds (config.interval.toInt.toNat / 2)).nanos))) ∧
      (trace.loopStartedAt = some (Span.ofSeconds (config.delay.toInt - 1).toNat) ↔
        0 < drive.horizon.nanos ∧
          (Span.ofSeconds (config.delay.toInt - 1).toNat).nanos < UInt64.size) := by
  obtain ⟨config, last, resolved, progressed, -, rfl⟩ := exists_progress_of_run ran observed
  refine ⟨config, resolved, fun lapse member ↦ ?_, loopStartedAt_eq_some_iff progressed⟩
  have timed := (keepsTime progressed).lapses lapse member
  exact ⟨timed.exact_iff, timed.overlong⟩

/-- In the scenario of a crash the loop starts after one second, and every lapse is what its event
tells. -/
theorem accounts_for_time_crashCeiling : ∃ driven trace,
    (Scenario.crashCeiling.drive 7 (Span.ofSeconds 900)).run = .ok driven ∧
      driven.trace = .ok trace ∧ trace.loopStartedAt = some (Span.ofSeconds 1) ∧
      ∀ lapse ∈ trace.lapses, lapse.2.time.now =
        lapse.1.now + lapse.2.event.duration (StallPlan.ofInterval 30) := by
  have settled := Scenario.resolution_eq .crashCeiling
  obtain ⟨count, last, -, -, crashed⟩ :=
    (Scenario.crashCeiling.drive 7 (Span.ofSeconds 900)).exists_crash ⟨1, "worker", 2, 30, 12345⟩
      rfl (by decide +kernel) (by decide +kernel) (by decide +kernel)
  obtain ⟨notices, run⟩ :=
    @exists_run_eq (Scenario.crashCeiling.drive 7 (Span.ofSeconds 900)) _ settled
  have ran := run.trans (map_eq_ok_iff.mpr ⟨last, crashed.ran, rfl⟩)
  obtain ⟨config, resolved, lapses, start⟩ := accounts_for_time ran rfl
  cases settled.symm.trans resolved
  refine ⟨_, _, ran, rfl, start.mpr (by decide), fun lapse member ↦ ?_⟩
  obtain ⟨exact, overlong⟩ := lapses lapse member
  refine exact.mpr (Nat.lt_of_not_le fun long ↦ ?_)
  rcases overlong long with ⟨-, delay⟩ | ⟨-, wait⟩
  · exact absurd delay (by decide)
  · exact absurd wait (by decide)

/-- A crash whose initial delay is longer than a clock can count. -/
def overslept : Drive where
  seed := 1
  horizon := Span.ofSeconds 900
  settings := "[processWatchdog]\nudp_port = 12345\n1_heartbeat_delay = 18446744075\n"
  index := 1
  role := .crash
  failEvery := 0

/-- The initial delay is cut on its way to the clock: its event tells of 18,446,744,074 seconds, and
the loop starts after less than a third of one. -/
theorem overslept_cut : ∃ driven trace, overslept.run = .ok driven ∧ driven.trace = .ok trace ∧
    trace.loopStartedAt = some ⟨290448384⟩ ∧
    trace.loopStartedAt ≠ some (Span.ofSeconds 18446744074) ∧
    trace.lapses.head? = some (Clock.start,
      ⟨⟨290448384⟩, .initialDelay (Span.ofSeconds 18446744074)⟩) := by
  have shown : (overslept.run.map fun driven ↦ driven.trace.toOption.map fun trace ↦
      (trace.loopStartedAt, trace.lapses.head?)) = .ok (some (some ⟨290448384⟩,
        some (Clock.start, ⟨⟨290448384⟩, .initialDelay (Span.ofSeconds 18446744074)⟩))) := by
    decide +kernel
  obtain ⟨driven, ran, found⟩ := map_eq_ok_iff.mp shown
  cases observed : driven.trace with
  | error error =>
    rw [observed] at found
    cases found
  | ok trace =>
    rw [observed] at found
    obtain ⟨start, first⟩ := Prod.mk.inj (Option.some_inj.mp found)
    refine ⟨driven, trace, ran, observed, start, ?_, first⟩
    rw [start]
    decide

end Drive

end Heartbeat
