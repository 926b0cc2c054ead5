import Heartbeat.Proofs.ScenarioSuccess

/-!
# The guard on the number of steps

A drive makes at most `maxSteps` steps. The guard is meant for a machine that does not move its
clock, so the question is how far a clock has come after so many steps of a machine that does.

For a machine that falls silent every ceiling is paid for by the steps of its stall: a step is worth
the shortest wait, and `Phase.credit` is what a machine may be ahead of its clock
(`Progress.kept_thrifty`). A machine that goes on at its ceilings pays nothing for them, and there
its `Rhythm` bounds the clock from both sides.

So a drive of at most fifteen minutes ends with a crash or at its horizon (`Drive.ends_as_due`),
unless its machine goes on at its ceilings with rounds as short as a millisecond. There the guard
comes first: `Drive.cut_off` is a run that it ends after less than ten minutes.
-/

set_option autoImplicit false
set_option relaxedAutoImplicit false

namespace Heartbeat

open Machine (SameMake Transition)
open Progress

/-! ### The steps of a short stall -/

/-- A machine whose observation window is shorter than fifteen minutes has a stall of one step or
more, and each takes three milliseconds or more. -/
theorem StallPlan.exists_short_step {interval : Int64} (short : fiveIntervals interval < 900) :
    1 ≤ (StallPlan.ofInterval interval).repeats ∧
      ∃ step, (StallPlan.ofInterval interval).step? = some step ∧
        3 * shortestWait.nanos ≤ step.nanos ∧ step.nanos < UInt64.size := by
  have small : interval.toInt.natAbs < 180 := by
    unfold fiveIntervals ceilingMultiplier maxCounter at short
    omega
  have next := nextSecond_le interval
  obtain ⟨step, planned, least, most⟩ := exists_long_step interval
  have two : (Span.ofSeconds 2).nanos = 2000000000 := rfl
  have wait : shortestWait.nanos = 1000000 := rfl
  have size : UInt64.size = 18446744073709551616 := rfl
  exact ⟨one_le_repeats (by omega), step, planned, by omega, by omega⟩

/-! ### Ceilings that are paid for -/

/-- What a machine with a number of steps in its stall may be ahead of its clock in a phase, if each
of its steps is worth the shortest wait. -/
def Phase.credit (repeats : ℕ) : Phase → ℕ
  | .initialDelay | .crashed => 0
  | .looping | .ceiling => shortestWait.nanos
  | .stalling remaining => if remaining = repeats then 2 * shortestWait.nanos else 0

theorem Phase.credit_le (repeats : ℕ) (phase : Phase) :
    phase.credit repeats ≤ 2 * shortestWait.nanos := by
  unfold Phase.credit
  split
  case h_5 => split <;> omega
  all_goals omega

/-- A number of steps is covered by the time and the credit of the phase that they lead to. -/
def Covered (repeats now : ℕ) (phase : Phase) (steps : ℕ) : Prop :=
  steps * shortestWait.nanos ≤ now + phase.credit repeats

namespace Covered

variable {repeats now later steps : ℕ} {phase : Phase}

/-- The initial delay is a step on credit. -/
theorem delay (covered : Covered repeats now .initialDelay steps) (order : now ≤ later) :
    Covered repeats later .looping (steps + 1) := by
  simp only [Covered, Phase.credit, Nat.succ_mul] at covered ⊢
  omega

/-- A round pays for itself. -/
theorem round (covered : Covered repeats now .looping steps)
    (turned : phase = .looping ∨ phase = .ceiling) (paid : now + shortestWait.nanos ≤ later) :
    Covered repeats later phase (steps + 1) := by
  rcases turned with rfl | rfl <;>
  · simp only [Covered, Phase.credit, Nat.succ_mul] at covered ⊢
    omega

/-- The ceiling is a step on credit. -/
theorem fallSilent (covered : Covered repeats now .ceiling steps) :
    Covered repeats now (.stalling repeats) (steps + 1) := by
  simp only [Covered, Phase.credit, Nat.succ_mul, if_true] at covered ⊢
  omega

/-- A step of a stall pays for itself and for the credit of the ceiling. -/
theorem keepSilent {remaining : ℕ} (covered : Covered repeats now (.stalling (remaining + 1)) steps)
    (paid : now + 3 * shortestWait.nanos ≤ later) :
    Covered repeats later (.stalling remaining) (steps + 1) := by
  simp only [Covered, Phase.credit, Nat.succ_mul] at covered ⊢
  split at covered <;> omega

/-- The end of a stall is a step on credit, and there is no credit left from the ceiling. -/
theorem endStall (covered : Covered repeats now (.stalling 0) steps) (some : 1 ≤ repeats) :
    Covered repeats now .looping (steps + 1) := by
  have paid : 0 ≠ repeats := by omega
  simp only [Covered, Phase.credit, Nat.succ_mul, if_neg paid] at covered ⊢
  omega

end Covered

/-- Every wait between heartbeats moves the clock by the shortest wait or more, also if the wait is
longer than the clock can count and is cut. -/
def MovesClock (interval : Int64) : Prop :=
  ∀ seconds, interval.toInt.toNat / 3 ≤ seconds → seconds ≤ interval.toInt.toNat / 2 →
    shortestWait.nanos ≤ (Machine.loopWait seconds).nanos % UInt64.size

/-- Waits that are not cut move the clock. -/
theorem movesClock_of_longestRound_lt {interval : Int64}
    (uncut : longestRound interval < UInt64.size) : MovesClock interval := by
  intro seconds least most
  by_cases positive : 0 < interval.toInt
  · have long := (Machine.loopWait_mem_range positive least most).2
    rw [Nat.mod_eq_of_lt (Nat.lt_of_le_of_lt long uncut), Machine.nanos_loopWait]
    exact le_max_right _ _
  · obtain rfl : seconds = 0 := by omega
    exact Nat.le_refl _

/-- A round moves the clock by the shortest wait or more. -/
theorem Machine.Transition.paid {machine : Machine} {interval : Int64} {world : World}
    {outcome : Machine.Outcome} (transition : Transition machine world outcome)
    (looping : machine.phase = .looping) (range : machine.activeJitter = jitterBounds interval)
    (moves : MovesClock interval) :
    world.clock.now.nanos + shortestWait.nanos ≤ outcome.world.clock.now.nanos := by
  have moved := Clock.nanos_now_of_advance transition.advance_duration
  have paid : shortestWait.nanos ≤
      (outcome.event.duration machine.timing.stall).nanos % UInt64.size := by
    cases transition with
    | idle =>
      have idle : idleWait.nanos % UInt64.size = 1000000000 := rfl
      have wait : shortestWait.nanos = 1000000 := rfl
      show _ ≤ idleWait.nanos % UInt64.size
      omega
    | beat phase enabled wait =>
      rw [Attempt.duration_event]
      obtain ⟨least, most⟩ := nextWait_attempt_mem_range (range.symm.trans enabled)
      exact moves _ least most
    | delay phase | crash phase | fallSilent phase | goOn phase | endStall phase
    | keepSilent phase | rest phase => exact absurd (looping.symm.trans phase) (by simp)
  omega

/-- The rounds are as short as the shortest wait, or they take a second or longer. -/
theorem shortestRound_eq_or_le (interval : Int64) :
    shortestRound interval = shortestWait.nanos ∨
      (Span.ofSeconds 1).nanos ≤ shortestRound interval := by
  unfold shortestRound shortestWait Span.ofMillis Span.ofSeconds Span.perSecond
  split <;> simp only <;> omega

namespace Progress

/-- The time up to which a drive is looked at, in nanoseconds. -/
def quarterHour : ℕ :=
  (Span.ofSeconds 900).nanos

/-- The steps of a machine that does not go on at its ceilings are covered by its clock. -/
structure Thrifty (made : Machine) (interval : Int64) (progress : Progress) : Prop where
  same : SameMake made progress.machine
  passed : progress.machine.phase ≠ .initialDelay → progress.machine.phase ≠ .looping →
    observationWindow interval ≤ progress.world.clock.now.nanos
  covered : progress.machine.phase ≠ .crashed → progress.world.clock.now.nanos < quarterHour →
    Covered made.timing.stall.repeats progress.world.clock.now.nanos progress.machine.phase
      progress.events.size

section Thrifty

variable {made : Machine} {interval : Int64}

/-- In the first quarter of an hour only short windows can have passed. -/
theorem fiveIntervals_lt {now : ℕ} (passed : observationWindow interval ≤ now)
    (early : now < quarterHour) : fiveIntervals interval < 900 := by
  unfold observationWindow maxRuntime quarterHour Span.ofSeconds Span.perSecond at *
  dsimp only at *
  omega

/-- The steps stay covered, as long as the waits move the clock and no ceiling is for nothing. -/
theorem kept_thrifty (keeps : Keeps made interval)
    (plan : made.timing.stall = StallPlan.ofInterval interval)
    (pays : ∀ name, made.role = .unrecognized name → 900 ≤ fiveIntervals interval)
    (moves : MovesClock interval) : Kept (Thrifty made interval) := by
  intro progress outcome thrifty transition
  have later := transition.now_le
  have pushed : (after progress.events progress.notices outcome).events.size =
      progress.events.size + 1 := Array.size_push _
  have same := thrifty.same.trans transition.sameMake
  have covered (running : progress.machine.phase ≠ .crashed)
      (early : outcome.world.clock.now.nanos < quarterHour) :=
    thrifty.covered running (Nat.lt_of_le_of_lt later early)
  by_cases looping : progress.machine.phase = .looping
  · have paid := transition.paid looping (thrifty.same.activeJitter_eq.trans keeps.range) moves
    refine ⟨same, fun _ reached ↦ ?_, fun _ early ↦ ?_⟩
    · have round := transition.phase_of_looping looping thrifty.same keeps
      split at round
      · next closed => exact closed.trans (Nat.sub_le _ _)
      · exact absurd round reached
    · rw [pushed]
      rw [looping] at covered
      exact (covered (by simp) early).round (transition.turned looping) paid
  · have passed (started : progress.machine.phase ≠ .initialDelay) :
        observationWindow interval ≤ outcome.world.clock.now.nanos :=
      (thrifty.passed started looping).trans later
    have short (started : progress.machine.phase ≠ .initialDelay)
        (early : outcome.world.clock.now.nanos < quarterHour) := by
      have plays := StallPlan.exists_short_step (fiveIntervals_lt (passed started) early)
      rwa [← plan] at plays
    cases transition with
    | delay phase wait =>
      refine ⟨same, fun _ reached ↦ absurd rfl reached, fun _ early ↦ ?_⟩
      rw [phase] at covered
      exact pushed ▸ (covered (by simp) early).delay later
    | idle phase | beat phase => exact absurd phase looping
    | crash phase =>
      exact ⟨same, fun _ _ ↦ passed (by simp [phase]), fun running ↦ absurd rfl running⟩
    | fallSilent phase =>
      refine ⟨same, fun _ _ ↦ passed (by simp [phase]), fun _ early ↦ ?_⟩
      rw [phase] at covered
      have next := (covered (by simp) early).fallSilent
      rw [← thrifty.same.timing] at next ⊢
      exact pushed ▸ next
    | goOn phase goes =>
      refine ⟨same, fun _ reached ↦ absurd rfl reached, fun _ early ↦ ?_⟩
      have window := fiveIntervals_lt (passed (by simp [phase])) early
      exact absurd window (Nat.not_lt_of_le (pays _ (thrifty.same.role.symm.trans goes)))
    | endStall phase =>
      refine ⟨same, fun _ reached ↦ absurd rfl reached, fun _ early ↦ ?_⟩
      rw [phase] at covered
      exact pushed ▸ (covered (by simp) early).endStall (short (by simp [phase]) early).1
    | @keepSilent remaining span silent phase silence wait =>
      refine ⟨same, fun _ _ ↦ passed (by simp [phase]), fun _ early ↦ ?_⟩
      obtain ⟨-, step, planned, least, uncut⟩ := short (by simp [phase]) early
      rw [← thrifty.same.timing] at planned
      have moved := (Transition.keepSilent phase silence wait).now_eq_of_stalling phase planned uncut
      rw [phase] at covered
      refine pushed ▸ (covered (by simp) early).keepSilent ?_
      show _ ≤ silent.clock.now.nanos
      dsimp only at moved
      omega
    | rest phase =>
      exact ⟨same, fun _ _ ↦ passed (by simp [phase]), fun running ↦ absurd phase running⟩

end Thrifty

end Progress

/-! ### The end of a drive -/

/-- A machine that has crashed has done so in its last step. -/
def Progress.Concluded (progress : Progress) : Prop :=
  progress.machine.phase = .crashed → ∃ time, progress.events.back? = some ⟨time, .crashed⟩

theorem Progress.kept_concluded : Kept Concluded := by
  intro progress outcome _ transition crashed
  have pushed : (after progress.events progress.notices outcome).events.back? =
      some ⟨outcome.world.clock, outcome.event⟩ := Array.back?_push
  by_cases looping : progress.machine.phase = .looping
  · have turned := transition.turned looping
    change outcome.machine.phase = _ at crashed
    simp [crashed] at turned
  · cases transition with
    | crash | rest => exact ⟨_, pushed⟩
    | idle phase | beat phase => exact absurd phase looping
    | delay | fallSilent | goOn | endStall | keepSilent => cases crashed

namespace Drive

variable {drive : Drive} {config : Instance} {last : Progress}

theorem thrifty
    (pays : ∀ name, drive.role = .unrecognized name → 900 ≤ fiveIntervals config.interval)
    (moves : MovesClock config.interval) (ran : drive.progress config = .ok last) :
    Thrifty (drive.machine config) config.interval last := by
  refine holds_of_kept (kept_thrifty (Machine.keeps_create _ _ _ _ _) rfl pays moves)
    ⟨SameMake.refl _, fun started ↦ absurd rfl started, fun _ _ ↦ ?_⟩ ran
  show 0 * shortestWait.nanos ≤ _
  omega

/-- A machine that pays for its ceilings and has made all its steps has crashed or has come past
the first quarter of an hour. -/
theorem quarterHour_le
    (pays : ∀ name, drive.role = .unrecognized name → 900 ≤ fiveIntervals config.interval)
    (moves : MovesClock config.interval) (ran : drive.progress config = .ok last)
    (made : last.events.size = maxSteps) (running : last.machine.phase ≠ .crashed) :
    quarterHour ≤ last.world.clock.now.nanos := by
  by_contra early
  have covered := (thrifty pays moves ran).covered running (Nat.lt_of_not_le early)
  have credit := last.machine.phase.credit_le (drive.machine config).timing.stall.repeats
  have wait : shortestWait.nanos = 1000000 := rfl
  have quarter : quarterHour = 900000000000 := rfl
  unfold Covered at covered
  rw [made] at covered
  unfold maxSteps at covered
  omega

/-- A machine that goes on at its ceilings and has made all its steps has come past the first
quarter of an hour, or its rounds are as short as the shortest wait, and it has come up to the
guard. -/
theorem quarterHour_le_or {name : String} (role : drive.role = .unrecognized name)
    (short : fiveIntervals config.interval < 900) (ran : drive.progress config = .ok last)
    (made : last.events.size = maxSteps) :
    quarterHour ≤ last.world.clock.now.nanos ∨ shortestRound config.interval =
      shortestWait.nanos ∧ (Span.ofMillis 589999).nanos ≤ last.world.clock.now.nanos := by
  have window := minObservation_le_observationWindow config.interval
  have wait : shortestWait.nanos = 1000000 := rfl
  have second : (Span.ofSeconds 1).nanos = 1000000000 := rfl
  have quarter : quarterHour = 900000000000 := rfl
  have limit : (Span.ofMillis 589999).nanos = 589999000000 := rfl
  have uncut : longestRound config.interval < UInt64.size := by
    unfold fiveIntervals ceilingMultiplier maxCounter at short
    unfold longestRound Span.ofMillis Span.ofSeconds Span.perSecond UInt64.size
    split <;> dsimp only <;> omega
  have bound := (rhythmic role uncut ran).rhythm.least_le
  rw [made] at bound
  unfold maxSteps at bound
  rcases shortestRound_eq_or_le config.interval with shortest | long
  · rw [shortest] at bound ⊢
    omega
  · omega

/-- A drive of at most a quarter of an hour ends with a crash or at its horizon. Its waits must move
the clock, and if its machine goes on at its ceilings with rounds as short as the shortest wait, the
horizon must not be behind the guard. -/
theorem ends_as_due {driven : Driven} (ran : drive.run = .ok driven)
    (outcome : driven.outcome = .ok last)
    (resolved : resolution drive.settings drive.index = .ok (.ok config))
    (moves : MovesClock config.interval) (within : drive.horizon ≤ Span.ofSeconds 900)
    (unhurried : ∀ name, drive.role = .unrecognized name →
      shortestRound config.interval = shortestWait.nanos →
        drive.horizon ≤ Span.ofMillis 589999) :
    (∃ time, last.events.back? = some ⟨time, .crashed⟩) ∨
      drive.horizon ≤ last.world.clock.now := by
  have observed : driven.trace = .ok last.trace := by
    unfold Driven.trace
    rw [outcome]
    rfl
  obtain ⟨found, final, settled, progressed, ended, -⟩ := exists_progress_of_run ran observed
  rw [outcome] at ended
  rw [resolved] at settled
  cases ended
  cases settled
  rcases ending progressed with late | crashed | made
  · exact .inr late
  · exact .inl crashed
  · by_cases crashed : last.machine.phase = .crashed
    · exact .inl (holds_of_kept kept_concluded (fun impossible ↦ nomatch impossible) progressed
        crashed)
    · refine .inr ?_
      by_cases goes : ∃ name, drive.role = .unrecognized name ∧ fiveIntervals config.interval < 900
      · obtain ⟨name, role, short⟩ := goes
        rcases quarterHour_le_or role short progressed made with late | ⟨shortest, late⟩
        · exact Nat.le_trans within late
        · exact Nat.le_trans (unhurried name role shortest) late
      · have pays (name : String) (role : drive.role = .unrecognized name) :
            900 ≤ fiveIntervals config.interval :=
          Nat.le_of_not_lt fun short ↦ goes ⟨name, role, short⟩
        exact Nat.le_trans within (quarterHour_le pays moves progressed made crashed)

/-- The scenario of a role that goes on comes to the horizon of a quarter of an hour. -/
theorem ends_as_due_healthyRole : ∃ driven last,
    (Scenario.healthyRole.drive 7 (Span.ofSeconds 900)).run = .ok driven ∧
      driven.outcome = .ok last ∧ ((∃ time, last.events.back? = some ⟨time, .crashed⟩) ∨
        Span.ofSeconds 900 ≤ last.world.clock.now) := by
  have stalls : Instance.Stalls ⟨1, "Process1", 0, 20, 12345⟩ 47 (Span.ofMillis 2100) :=
    ⟨by decide +kernel, by decide +kernel, by decide +kernel⟩
  obtain ⟨last, progressed, -, -⟩ := exists_last_of_goOn
    (Scenario.healthyRole.drive 7 (Span.ofSeconds 900)) rfl
    (durable _ stalls (le_refl (longestRound 20)) (by decide +kernel))
    (by decide +kernel) (by decide +kernel) (by decide +kernel)
  obtain ⟨notices, run⟩ := @exists_run_eq (Scenario.healthyRole.drive 7 (Span.ofSeconds 900)) _
    (Scenario.resolution_eq .healthyRole)
  have ran := run.trans (map_eq_ok_iff.mpr ⟨last, progressed, rfl⟩)
  exact ⟨_, last, ran, rfl, ends_as_due ran rfl (Scenario.resolution_eq .healthyRole)
    (movesClock_of_longestRound_lt (by decide +kernel)) (Nat.le_refl _)
    fun _ _ short ↦ absurd short (by decide +kernel)⟩

/-! ### The guard -/

/-- A machine that goes on at its ceilings is stopped by the guard and not by the horizon, if its
clock cannot come to the horizon in so many steps. -/
theorem size_events_eq_maxSteps {name : String} (role : drive.role = .unrecognized name)
    (uncut : longestRound config.interval < UInt64.size)
    (ran : drive.progress config = .ok last) (started : Started ⟨config.sleep⟩ last)
    (far : 2 * config.sleep + observationWindow config.interval +
      maxSteps * longestRound config.interval < 2 * drive.horizon.nanos) :
    last.events.size = maxSteps ∧ last.world.clock.now < drive.horizon := by
  have bound := (rhythmic role uncut ran).rhythm.le_most started.started
  rw [started.startTime] at bound
  have steps := Nat.mul_le_mul_right (longestRound config.interval) (size_events_le ran)
  have early : last.world.clock.now.nanos < drive.horizon.nanos := by
    dsimp only at bound
    omega
  refine ⟨?_, early⟩
  rcases ending ran with late | ⟨time, final⟩ | made
  · exact absurd early (Nat.not_lt_of_le late)
  · exact absurd rfl ((uncrashed (by simp [role]) ran).events _ (Array.mem_of_back? final))
  · exact made

/-- A machine with rounds of a millisecond that goes on at its ceilings. -/
def hurried : Drive where
  seed := 1
  horizon := Span.ofSeconds 900
  settings := "[processWatchdog]\nudp_port = 12345\n1_heartbeat_interval = 1\n"
  index := 1
  role := .unrecognized "healthy"
  failEvery := 0

/-- The guard cuts off a machine that still moves its clock: after all its steps it has neither
crashed nor come to its horizon. -/
theorem cut_off : ∃ driven last, hurried.run = .ok driven ∧ driven.outcome = .ok last ∧
    last.events.size = maxSteps ∧
    ¬ ((∃ time, last.events.back? = some ⟨time, .crashed⟩) ∨
      hurried.horizon ≤ last.world.clock.now) := by
  have resolved : resolution hurried.settings hurried.index =
      .ok (.ok ⟨1, "Process1", 0, 1, 12345⟩) := by decide +kernel
  have stalls : Instance.Stalls ⟨1, "Process1", 0, 1, 12345⟩ 50 (Span.ofSeconds 2) :=
    ⟨by decide +kernel, by decide +kernel, by decide +kernel⟩
  obtain ⟨last, progressed, started, -⟩ := hurried.exists_last_of_goOn rfl
    (hurried.durable stalls (by decide +kernel) (le_refl (Span.ofSeconds 2).nanos))
    (by decide +kernel) (by decide +kernel) (by decide +kernel)
  obtain ⟨made, early⟩ := size_events_eq_maxSteps rfl (by decide +kernel) progressed started
    (by decide +kernel)
  obtain ⟨notices, run⟩ := exists_run_eq resolved
  refine ⟨_, last, run.trans (map_eq_ok_iff.mpr ⟨last, progressed, rfl⟩), rfl, made, ?_⟩
  rintro (⟨time, final⟩ | late)
  · exact (uncrashed (by simp [hurried]) progressed).events _ (Array.mem_of_back? final) rfl
  · exact Nat.not_lt_of_le late early

end Drive

end Heartbeat
