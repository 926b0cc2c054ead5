import Heartbeat.Proofs.ConditionalRun
import Heartbeat.Proofs.DrawRange
import Heartbeat.Proofs.TraceLanguage
import Mathlib.Algebra.Order.Floor.Div

/-!
# The observation window closes

Every round of the loop takes at least `shortestRound` and at most `longestRound`
(`Transition.round_mem_range`), and as long as the clock can hold its wait it can be made
(`exists_round`). So the times after a number of rounds are bounded on both sides, whatever is drawn
and whatever becomes of the attempts. `Observation` collects what holds up to the first ceiling, and
`exists_arrival` counts the rounds until it: at least the window over the longest round and at most
the window over the shortest one. `reaches_ceiling` is the whole account of the first ceiling, down
to the crash of a machine that crashes.
-/

set_option autoImplicit false
set_option relaxedAutoImplicit false

namespace Heartbeat

open Machine (SameMake Transition)

/-! ### The time of a round -/

/-- The shortest wait of a round in nanoseconds: a third of the interval in whole seconds and at
least a millisecond, or one second without heartbeats. -/
def shortestRound (interval : Int64) : ℕ :=
  if 0 < interval.toInt then
    max (Span.ofSeconds (interval.toInt.toNat / 3)).nanos (Span.ofMillis 1).nanos
  else (Span.ofSeconds 1).nanos

/-- The longest wait of a round in nanoseconds: a half of the interval in whole seconds and at
least a millisecond, or one second without heartbeats. -/
def longestRound (interval : Int64) : ℕ :=
  if 0 < interval.toInt then
    max (Span.ofSeconds (interval.toInt.toNat / 2)).nanos (Span.ofMillis 1).nanos
  else (Span.ofSeconds 1).nanos

theorem shortestRound_pos (interval : Int64) : 0 < shortestRound interval := by
  unfold shortestRound Span.ofMillis Span.ofSeconds Span.perSecond
  split <;> simp only <;> omega

theorem shortestRound_le_longestRound (interval : Int64) :
    shortestRound interval ≤ longestRound interval := by
  have thirds : interval.toInt.toNat / 3 ≤ interval.toInt.toNat / 2 := by omega
  unfold shortestRound longestRound Span.ofMillis Span.ofSeconds Span.perSecond
  split <;> simp only <;> omega

/-- A wait of the loop is the whole seconds, and at least a millisecond. -/
theorem Machine.nanos_loopWait (seconds : ℕ) :
    (loopWait seconds).nanos =
      max (Span.ofSeconds seconds).nanos (Span.ofMillis 1).nanos := by
  unfold loopWait shortestWait Span.ofMillis Span.ofSeconds Span.perSecond
  split <;> simp only <;> omega

/-- The range of the wait between heartbeats, as numbers. -/
theorem toNat_of_jitterBounds {interval : Int64} {low high : UInt64}
    (range : jitterBounds interval = some (low, high)) :
    0 < interval.toInt ∧ low.toNat = interval.toInt.toNat / 3 ∧
      high.toNat = interval.toInt.toNat / 2 := by
  unfold jitterBounds at range
  split at range
  · cases range
  · next positive =>
    cases range
    have word : interval.toInt < 9223372036854775808 := Int64.toInt_lt interval
    refine ⟨by omega, UInt64.toNat_ofNat_of_lt' ?_, UInt64.toNat_ofNat_of_lt' ?_⟩ <;>
      unfold UInt64.size <;> omega

namespace Machine

variable {machine : Machine} {world : World} {outcome : Outcome} {interval : Int64}

/-- The wait drawn after an attempt lies in the range that it is drawn from. -/
theorem nextWait_attempt_mem_range {low high : UInt64}
    (range : jitterBounds interval = some (low, high)) :
    interval.toInt.toNat / 3 ≤ (machine.attempt world low high).nextWait ∧
      (machine.attempt world low high).nextWait ≤ interval.toInt.toNat / 2 := by
  obtain ⟨-, third, half⟩ := toNat_of_jitterBounds range
  have ordered : low.toNat ≤ high.toNat := by omega
  rw [nextWait_attempt, ← third, ← half]
  exact Keystream.draw_mem_range ordered world.stream

/-- A wait of seconds between a third and a half of the interval is a round of the interval. -/
theorem loopWait_mem_range (positive : 0 < interval.toInt) {seconds : ℕ}
    (least : interval.toInt.toNat / 3 ≤ seconds) (most : seconds ≤ interval.toInt.toNat / 2) :
    shortestRound interval ≤ (loopWait seconds).nanos ∧
      (loopWait seconds).nanos ≤ longestRound interval := by
  rw [nanos_loopWait]
  unfold shortestRound longestRound Span.ofSeconds
  rw [if_pos positive, if_pos positive]
  constructor
  · exact max_le_max_right _ (Nat.mul_le_mul_right _ least)
  · exact max_le_max_right _ (Nat.mul_le_mul_right _ most)

/-- The wait after an attempt is a round of the interval. -/
theorem loopWait_attempt_mem_range {low high : UInt64}
    (range : jitterBounds interval = some (low, high)) :
    shortestRound interval ≤ (loopWait (machine.attempt world low high).nextWait).nanos ∧
      (loopWait (machine.attempt world low high).nextWait).nanos ≤ longestRound interval := by
  obtain ⟨positive, -, -⟩ := toNat_of_jitterBounds range
  obtain ⟨least, most⟩ := @nextWait_attempt_mem_range machine world interval low high range
  exact loopWait_mem_range positive least most

theorem jitterBounds_eq_none_iff : jitterBounds interval = none ↔ ¬ 0 < interval.toInt := by
  unfold jitterBounds
  split <;> simp <;> omega

/-- Without heartbeats the idle wait is a round of the interval. -/
theorem idleWait_eq_round (none : jitterBounds interval = none) :
    idleWait.nanos = shortestRound interval ∧ idleWait.nanos = longestRound interval := by
  have disabled : ¬ 0 < interval.toInt := jitterBounds_eq_none_iff.mp none
  unfold shortestRound longestRound idleWait
  rw [if_neg disabled, if_neg disabled]
  exact ⟨rfl, rfl⟩

/-- What a round of the loop does to a machine and its clock. -/
structure IsRound (machine : Machine) (world : World) (outcome : Outcome) : Prop where
  phase : outcome.machine.phase =
    if machine.timing.maxRuntime ≤ outcome.world.clock.now - machine.state.startTime then .ceiling
    else .looping
  elapsed : outcome.machine.state.elapsed = outcome.world.clock.now - machine.state.startTime
  letter : outcome.event.letter = machine.round

/-- A step in the loop is a round. -/
theorem Transition.isRound (transition : Transition machine world outcome)
    (looping : machine.phase = .looping) : IsRound machine world outcome := by
  cases transition with
  | idle phase disabled wait =>
    refine ⟨?_, rfl, ?_⟩
    · simp only [checkCeiling, phase]
    · exact (if_pos disabled).symm
  | beat phase enabled wait =>
    refine ⟨?_, rfl, ?_⟩
    · simp only [checkCeiling, phase]
    · rw [Attempt.letter_event]
      exact (if_neg (by simp [enabled])).symm
  | delay phase | crash phase | fallSilent phase | goOn phase | endStall phase | keepSilent phase
  | rest phase => exact absurd (looping.symm.trans phase) (by simp)

/-- A round takes a wait between the shortest and the longest one. -/
theorem Transition.round_mem_range (transition : Transition machine world outcome)
    (looping : machine.phase = .looping) (range : machine.activeJitter = jitterBounds interval) :
    shortestRound interval ≤ (outcome.event.duration machine.timing.stall).nanos ∧
      (outcome.event.duration machine.timing.stall).nanos ≤ longestRound interval := by
  cases transition with
  | idle phase disabled wait =>
    obtain ⟨shortest, longest⟩ := idleWait_eq_round (range.symm.trans disabled)
    exact ⟨shortest.ge, longest.le⟩
  | beat phase enabled wait =>
    rw [Attempt.duration_event]
    exact loopWait_attempt_mem_range (range.symm.trans enabled)
  | delay phase | crash phase | fallSilent phase | goOn phase | endStall phase | keepSilent phase
  | rest phase => exact absurd (looping.symm.trans phase) (by simp)

/-- After a round the clock shows at least the shortest and at most the longest wait more. -/
theorem Transition.now_mem_range (transition : Transition machine world outcome)
    (looping : machine.phase = .looping) (range : machine.activeJitter = jitterBounds interval)
    (small : longestRound interval < UInt64.size) :
    world.clock.now.nanos + shortestRound interval ≤ outcome.world.clock.now.nanos ∧
      outcome.world.clock.now.nanos ≤ world.clock.now.nanos + longestRound interval := by
  obtain ⟨shortest, longest⟩ := transition.round_mem_range looping range
  -- The wait is shorter than what the clock can count, so it is not cut.
  rw [Clock.nanos_now_of_advance transition.advance_duration, Nat.mod_eq_of_lt (by omega)]
  omega

/-- As long as the clock can hold the longest wait, a round can be made. -/
theorem exists_round (looping : machine.phase = .looping)
    (range : machine.activeJitter = jitterBounds interval)
    (fits : world.clock.now.nanos + longestRound interval < UInt64.size) :
    ∃ outcome, Transition machine world outcome := by
  cases active : machine.activeJitter with
  | none =>
    obtain ⟨-, longest⟩ := idleWait_eq_round (range.symm.trans active)
    obtain ⟨later, wait, -⟩ := @World.exists_advance world idleWait (by omega)
    exact ⟨_, .idle looping active wait⟩
  | some bounds =>
    obtain ⟨low, high⟩ := bounds
    obtain ⟨-, longest⟩ := @loopWait_attempt_mem_range machine world interval low high
      (range.symm.trans active)
    obtain ⟨later, wait, -⟩ := @World.exists_advance (machine.attempt world low high).world
      (loopWait (machine.attempt world low high).nextWait) (by rw [clock_attempt]; omega)
    exact ⟨_, .beat looping active wait⟩

end Machine

/-! ### Up to the first ceiling -/

/-- The length of the observation window in nanoseconds. -/
def observationWindow (interval : Int64) : ℕ :=
  (Span.ofSeconds (maxRuntime interval)).nanos

/-- What holds of a run after its initial delay and a number of rounds, up to its first ceiling.
The loop started at `base`. -/
structure Observation (made : Machine) (interval : Int64) (base count : ℕ) (progress : Progress) :
    Prop where
  same : SameMake made progress.machine
  startTime : progress.machine.state.startTime.nanos = base
  elapsed : progress.machine.state.elapsed.nanos = progress.world.clock.now.nanos - base
  phase : progress.machine.phase =
    if observationWindow interval ≤ progress.world.clock.now.nanos - base then .ceiling
    else .looping
  letters : progress.letters = opening made.round count
  least : base + count * shortestRound interval ≤ progress.world.clock.now.nanos
  most : progress.world.clock.now.nanos ≤ base + count * longestRound interval
  closing : progress.world.clock.now.nanos <
    base + observationWindow interval + longestRound interval

/-- A machine that runs by the times of an interval. -/
structure Keeps (made : Machine) (interval : Int64) : Prop where
  range : made.activeJitter = jitterBounds interval
  window : made.timing.maxRuntime.nanos = observationWindow interval

theorem Machine.keeps_create (config : Instance) (role : Role) (tap : Tap) (pid : UInt32)
    (time : Clock) : Keeps (Machine.create config role tap pid time) config.interval :=
  ⟨Machine.activeJitter_create config role tap pid time, rfl⟩

namespace Observation

variable {made : Machine} {interval : Int64} {base count : ℕ} {progress : Progress}

/-- In the loop the window is still open. -/
theorem now_lt (observation : Observation made interval base count progress)
    (looping : progress.machine.phase = .looping) :
    progress.world.clock.now.nanos - base < observationWindow interval := by
  have phase := observation.phase
  rw [looping] at phase
  split at phase
  · cases phase
  · omega

/-- At the ceiling the window has passed. -/
theorem le_now (observation : Observation made interval base count progress)
    (ceiling : progress.machine.phase = .ceiling) :
    observationWindow interval ≤ progress.world.clock.now.nanos - base := by
  have phase := observation.phase
  rw [ceiling] at phase
  split at phase
  · assumption
  · cases phase

/-- Before the first ceiling there are only the initial delay and rounds of the loop. -/
theorem letter_eq (observation : Observation made interval base count progress)
    {stamped : Stamped} (member : stamped ∈ progress.events) :
    stamped.event.letter = .initialDelay ∨ stamped.event.letter = made.round := by
  have spelled : stamped.event.letter ∈ progress.letters :=
    List.mem_map_of_mem (Array.mem_toList_iff.mpr member)
  rw [observation.letters] at spelled
  rcases List.mem_cons.mp spelled with first | later
  · exact .inl first
  · exact .inr (List.eq_of_mem_replicate later)

/-- No machine crashes before the first ceiling. -/
theorem ne_crashed (observation : Observation made interval base count progress) :
    ∀ stamped ∈ progress.events, stamped.event ≠ .crashed := by
  intro stamped member crash
  have letter := observation.letter_eq member
  rw [crash] at letter
  unfold Machine.round at letter
  split at letter <;> simp [Event.letter] at letter

/-- One more round in the window. -/
theorem step (keeps : Keeps made interval)
    (fits : base + observationWindow interval + longestRound interval < UInt64.size)
    (observation : Observation made interval base count progress)
    (looping : progress.machine.phase = .looping) {outcome : Machine.Outcome}
    (transition : Transition progress.machine progress.world outcome) :
    Observation made interval base (count + 1)
      (Progress.after progress.events progress.notices outcome) := by
  have range := observation.same.activeJitter_eq.trans keeps.range
  obtain ⟨shortest, longest⟩ := transition.now_mem_range looping range (by omega)
  have round := transition.isRound looping
  have started : outcome.machine.state.startTime.nanos = base := by
    rw [transition.startTime_eq (by simp [looping]), observation.startTime]
  have window : progress.machine.timing.maxRuntime.nanos = observationWindow interval := by
    rw [observation.same.timing, keeps.window]
  have early := observation.now_lt looping
  have least := observation.least
  have most := observation.most
  refine ⟨observation.same.trans transition.sameMake, started, ?_, ?_, ?_, ?_, ?_, ?_⟩
  · rw [← observation.startTime]
    exact congrArg Span.nanos round.elapsed
  · rw [← observation.startTime, ← window]
    exact round.phase
  · rw [Progress.letters_after, round.letter, opening_succ, observation.same.round_eq,
      ← observation.letters]
    rfl
  · show _ ≤ outcome.world.clock.now.nanos
    rw [Nat.succ_mul]
    omega
  · show outcome.world.clock.now.nanos ≤ _
    rw [Nat.succ_mul]
    omega
  · show outcome.world.clock.now.nanos < _
    omega

/-- A disturbance that leaves the clock alone does not show in the window. -/
theorem disturbed (observation : Observation made interval base count progress)
    (stream : Keystream) (unreachable : Bool) :
    Observation made interval base count (progress.disturbed stream unreachable) where
  same := observation.same
  startTime := observation.startTime
  elapsed := observation.elapsed
  phase := observation.phase
  letters := observation.letters
  least := observation.least
  most := observation.most
  closing := observation.closing

end Observation

namespace Progress

/-- A run under a schedule is in the loop after its initial delay and every number of rounds below
a count, and its window is still open at its last look at the clock. -/
def LoopsUpTo (first : Progress) (schedule : Schedule) (interval : Int64) (count : ℕ) : Prop :=
  ∀ earlier < count, ∃ progress, first.follow (schedule.moves (earlier + 1)) = .ok progress ∧
    progress.machine.phase = .looping ∧
    progress.machine.state.elapsed.nanos < observationWindow interval

/-- A run under a schedule comes to a phase after a number of rounds in its first window. -/
def ObservedIn (first : Progress) (schedule : Schedule) (made : Machine) (interval : Int64)
    (base count : ℕ) (phase : Phase) : Prop :=
  first.LoopsUpTo schedule interval count ∧
    ∃ progress, first.follow (schedule.moves (count + 1)) = .ok progress ∧
      Observation made interval base count progress ∧ progress.machine.phase = phase

section Observed

variable {first : Progress} {schedule : Schedule} {made : Machine} {interval : Int64}
  {base count : ℕ}

/-- A run that is in the loop makes one more round, to the loop or to the ceiling. -/
theorem ObservedIn.step (keeps : Keeps made interval)
    (fits : base + observationWindow interval + longestRound interval < UInt64.size)
    (spares : schedule.SparesClock)
    (looping : first.ObservedIn schedule made interval base count .looping) :
    first.ObservedIn schedule made interval base (count + 1) .ceiling ∨
      first.ObservedIn schedule made interval base (count + 1) .looping := by
  obtain ⟨before, progress, followed, observation, phase⟩ := looping
  have early := observation.now_lt phase
  have loops : first.LoopsUpTo schedule interval (count + 1) := by
    intro earlier below
    rcases Nat.lt_succ_iff_lt_or_eq.mp below with lower | rfl
    · exact before earlier lower
    · refine ⟨progress, followed, phase, ?_⟩
      rw [observation.elapsed]
      exact early
  obtain ⟨stream, unreachable, next⟩ := follow_moves_succ spares followed
  have disturbed := observation.disturbed stream unreachable
  obtain ⟨outcome, transition⟩ := @Machine.exists_round progress.machine
    (progress.disturbed stream unreachable).world interval phase
    (observation.same.activeJitter_eq.trans keeps.range) (by
      show progress.world.clock.now.nanos + _ < _
      omega)
  have stepped := disturbed.step keeps fits phase transition
  have reached : first.follow (schedule.moves (count + 1 + 1)) =
      .ok (after progress.events progress.notices outcome) := by
    rw [next]
    exact move_step_eq_ok_iff.mpr ⟨outcome, transition, rfl⟩
  by_cases past : observationWindow interval ≤ outcome.world.clock.now.nanos - base
  · exact .inl ⟨loops, _, reached, stepped, stepped.phase.trans (if_pos past)⟩
  · exact .inr ⟨loops, _, reached, stepped, stepped.phase.trans (if_neg past)⟩

/-- A run that is in the loop after its initial delay has come to the ceiling after at most a number
of rounds, or it is still in the loop after that number. -/
theorem exists_ceiling_or_looping (keeps : Keeps made interval)
    (fits : base + observationWindow interval + longestRound interval < UInt64.size)
    (spares : schedule.SparesClock)
    (started : first.ObservedIn schedule made interval base 0 .looping) (bound : ℕ) :
    (∃ count ≤ bound, first.ObservedIn schedule made interval base count .ceiling) ∨
      first.ObservedIn schedule made interval base bound .looping := by
  induction bound with
  | zero => exact .inr started
  | succ bound ih =>
    rcases ih with ⟨count, below, arrived⟩ | looping
    · exact .inl ⟨count, Nat.le_succ_of_le below, arrived⟩
    · rcases looping.step keeps fits spares with arrived | still
      · exact .inl ⟨bound + 1, le_rfl, arrived⟩
      · exact .inr still

/-- A run that is in the loop after its initial delay comes to the ceiling, after at least the
window over the longest round and at most the window over the shortest one. -/
theorem exists_arrival (keeps : Keeps made interval)
    (fits : base + observationWindow interval + longestRound interval < UInt64.size)
    (spares : schedule.SparesClock)
    (started : first.ObservedIn schedule made interval base 0 .looping) :
    ∃ count, observationWindow interval ⌈/⌉ longestRound interval ≤ count ∧
      count ≤ observationWindow interval ⌈/⌉ shortestRound interval ∧
      first.ObservedIn schedule made interval base count .ceiling := by
  have shortest := shortestRound_pos interval
  have longest : 0 < longestRound interval :=
    Nat.lt_of_lt_of_le shortest (shortestRound_le_longestRound interval)
  rcases exists_ceiling_or_looping keeps fits spares started
    (observationWindow interval ⌈/⌉ shortestRound interval) with ⟨count, below, arrived⟩ | looping
  · refine ⟨count, ?_, below, arrived⟩
    obtain ⟨-, progress, -, observation, phase⟩ := arrived
    have past := observation.le_now phase
    have most := observation.most
    rw [ceilDiv_le_iff_le_mul longest, Nat.mul_comm]
    omega
  · -- So many of the shortest rounds fill the window, so the loop is over.
    obtain ⟨-, progress, -, observation, phase⟩ := looping
    have early := observation.now_lt phase
    have least := observation.least
    have filled := (ceilDiv_le_iff_le_mul shortest).mp
      (le_refl (observationWindow interval ⌈/⌉ shortestRound interval))
    rw [Nat.mul_comm] at filled
    omega

end Observed

/-! ### From the start -/

section Fresh

variable (config : Instance) (role : Role) (tap : Tap) (pid : UInt32) (world : World)

/-- The time at which the loop of a fresh machine starts: its sleep is one second shorter than the
delay. -/
def loopStart : ℕ :=
  world.clock.now.nanos + (Span.ofSeconds (config.delay.toInt - 1).toNat).nanos

theorem nanos_initialSleep : (((Timing.ofInstance config).initialSleep).getD Span.zero).nanos =
    (Span.ofSeconds (config.delay.toInt - 1).toNat).nanos := by
  unfold Timing.ofInstance
  by_cases delayed : 0 < config.delay.toInt
  · simp only [if_pos delayed, Option.getD_some]
  · have none : (config.delay.toInt - 1).toNat = 0 := by omega
    simp only [if_neg delayed, Option.getD_none, none]
    rfl

theorem minObservation_le_observationWindow (interval : Int64) :
    180000000000 ≤ observationWindow interval := by
  have least : minObservation ≤ maxRuntime interval := le_max_right _ _
  unfold minObservation at least
  unfold observationWindow Span.ofSeconds Span.perSecond
  simp only
  omega

/-- A shortest round fits into the observation window. -/
theorem shortestRound_le_observationWindow (interval : Int64) :
    shortestRound interval ≤ observationWindow interval := by
  have bounded := interval.toInt_lt
  unfold shortestRound observationWindow maxRuntime fiveIntervals ceilingMultiplier maxCounter
    minObservation Span.ofMillis Span.ofSeconds Span.perSecond
  split <;> simp only <;> omega

/-- After its first step a fresh machine is in the loop. -/
theorem observedIn_fresh {schedule : Schedule} (spares : schedule.SparesClock)
    (fits : loopStart config world < UInt64.size) :
    (fresh config role tap pid world).ObservedIn schedule
      (Machine.create config role tap pid world.clock) config.interval (loopStart config world) 0
      .looping := by
  refine ⟨fun earlier below ↦ absurd below earlier.not_lt_zero, ?_⟩
  have made : (fresh config role tap pid world).follow (schedule.moves 0) =
      .ok (fresh config role tap pid world) := rfl
  obtain ⟨stream, unreachable, next⟩ := follow_moves_succ spares made
  have sleep := nanos_initialSleep config
  obtain ⟨later, wait, shown⟩ := @World.exists_advance (world.disturbed stream unreachable)
    ((Timing.ofInstance config).initialSleep.getD Span.zero) (by
      rw [sleep]
      exact fits)
  rw [sleep] at shown
  have transition : Transition (Machine.create config role tap pid world.clock)
      (world.disturbed stream unreachable) _ := .delay rfl wait
  refine ⟨_, next.trans (move_step_eq_ok_iff.mpr ⟨_, transition, rfl⟩), ?_, rfl⟩
  have window := minObservation_le_observationWindow config.interval
  have spent : later.clock.now.nanos = loopStart config world := shown
  have none : later.clock.now.nanos - loopStart config world = 0 := by omega
  refine ⟨transition.sameMake, spent, ?_, ?_, rfl, ?_, ?_, ?_⟩
  · exact none.symm
  · rw [if_neg]
    · rfl
    · show ¬ _ ≤ later.clock.now.nanos - _
      omega
  · show _ ≤ later.clock.now.nanos
    omega
  · show later.clock.now.nanos ≤ _
    omega
  · show later.clock.now.nanos < _
    omega

/-- Ten of the longest rounds fit into the observation window, if there are heartbeats and the clock
can hold the window. -/
theorem ten_mul_longestRound_le {interval : Int64} (positive : 0 < interval.toInt)
    (fits : observationWindow interval < UInt64.size) :
    10 * longestRound interval ≤ observationWindow interval := by
  have least : minObservation ≤ maxRuntime interval := le_max_right _ _
  have five : fiveIntervals interval ≤ maxRuntime interval := le_max_left _ _
  unfold minObservation at least
  unfold fiveIntervals ceilingMultiplier maxCounter at five
  unfold observationWindow Span.ofSeconds Span.perSecond at fits ⊢
  unfold longestRound Span.ofSeconds Span.ofMillis Span.perSecond
  rw [if_pos positive]
  unfold UInt64.size at fits
  simp only at fits ⊢
  omega

/-- At its first ceiling a machine that crashes takes one step more. -/
theorem exists_crash {schedule : Schedule} (spares : schedule.SparesClock) {made : Machine}
    {interval : Int64} {base count : ℕ} {first : Progress} (crashes : made.role = .crash)
    (arrived : first.ObservedIn schedule made interval base count .ceiling) :
    ∃ last, first.follow (schedule.moves (count + 2)) = .ok last ∧
      last.machine.phase = .crashed ∧ last.letters = opening made.round count ++ [.crashed] := by
  obtain ⟨-, progress, followed, observation, phase⟩ := arrived
  obtain ⟨stream, unreachable, next⟩ := follow_moves_succ spares followed
  have transition : Transition progress.machine (progress.world.disturbed stream unreachable) _ :=
    .crash phase (observation.same.role.trans crashes)
  refine ⟨_, next.trans (move_step_eq_ok_iff.mpr ⟨_, transition, rfl⟩), rfl, ?_⟩
  rw [letters_after, ← observation.letters]
  rfl

/-- A calm run of a machine that crashes ends with the step after its first ceiling. -/
theorem exists_stepsUntil_crashed {made : Machine} {interval : Int64} {base count : ℕ}
    {first : Progress} (crashes : made.role = .crash)
    (arrived : first.ObservedIn .calm made interval base count .ceiling) {bound : ℕ}
    (enough : count + 2 ≤ bound) :
    ∃ last, first.stepsUntil (· == .crashed) bound = .ok last ∧ last.machine.phase = .crashed ∧
      last.letters = opening made.round count ++ [.crashed] := by
  obtain ⟨-, progress, followed, observation, phase⟩ := arrived
  have unfinished : ∀ stamped ∈ progress.events, (stamped.event == Event.crashed) = false :=
    fun stamped member ↦ beq_eq_false_iff_ne.mpr (observation.ne_crashed stamped member)
  have passes : Passes (fun _ ↦ true) (· == Event.crashed) (count + 1) first progress :=
    passes_of_follow (fun _ _ ↦ rfl) followed rfl unfinished
  have transition : Transition progress.machine progress.world _ :=
    .crash phase (observation.same.role.trans crashes)
  refine ⟨_, passes.run_eq rfl transition rfl enough, rfl, ?_⟩
  rw [letters_after, ← observation.letters]
  rfl

/-- Let the clock be able to hold the delay, the observation window and one longest round, and let
only the machine move it. Then a fresh machine comes to the ceiling after a number of rounds between
the window over the longest round and the window over the shortest one, at least ten with
heartbeats, and never earlier; the time since the start of the loop is then at least the window and
less than the window and a longest round. A machine that crashes does so in the step after. -/
theorem reaches_ceiling (config : Instance) (role : Role) (tap : Tap) (pid : UInt32) (world : World)
    {schedule : Schedule} (spares : schedule.SparesClock)
    (fits : world.clock.now.nanos + (Span.ofSeconds (config.delay.toInt - 1).toNat).nanos +
      observationWindow config.interval + longestRound config.interval < UInt64.size) :
    ∃ count, observationWindow config.interval ⌈/⌉ longestRound config.interval ≤ count ∧
      count ≤ observationWindow config.interval ⌈/⌉ shortestRound config.interval ∧
      (0 < config.interval.toInt → 10 ≤ count) ∧
      (∀ earlier < count, ∃ progress,
        (fresh config role tap pid world).follow (schedule.moves (earlier + 1)) = .ok progress ∧
        progress.machine.phase = .looping ∧
        progress.machine.state.elapsed.nanos < observationWindow config.interval) ∧
      (∃ progress,
        (fresh config role tap pid world).follow (schedule.moves (count + 1)) = .ok progress ∧
        progress.machine.phase = .ceiling ∧
        progress.letters = opening (roundLetter config.interval) count ∧
        progress.machine.state.elapsed =
          progress.world.clock.now - progress.machine.state.startTime ∧
        observationWindow config.interval ≤ progress.machine.state.elapsed.nanos ∧
        progress.machine.state.elapsed.nanos <
          observationWindow config.interval + longestRound config.interval) ∧
      (role = .crash → ∃ last,
        (fresh config role tap pid world).follow (schedule.moves (count + 2)) = .ok last ∧
        last.machine.phase = .crashed ∧
        last.letters = opening (roundLetter config.interval) count ++ [.crashed]) ∧
      (role = .crash → schedule = .calm → ∀ bound, count + 2 ≤ bound → ∃ last,
        (fresh config role tap pid world).stepsUntil (· == .crashed) bound = .ok last ∧
        last.machine.phase = .crashed ∧
        last.letters = opening (roundLetter config.interval) count ++ [.crashed]) := by
  have keeps := Machine.keeps_create config role tap pid world.clock
  have round := Machine.round_create config role tap pid world.clock
  have started := observedIn_fresh config role tap pid world spares (by unfold loopStart; omega)
  obtain ⟨count, least, most, arrived⟩ := exists_arrival keeps fits spares started
  refine ⟨count, least, most, ?_, arrived.1, ?_, ?_, ?_⟩
  · intro positive
    have ten := ten_mul_longestRound_le positive (by omega)
    have shortest := shortestRound_pos config.interval
    have ordered := shortestRound_le_longestRound config.interval
    have covered := (ceilDiv_le_iff_le_mul (by omega)).mp least
    rw [Nat.mul_comm] at ten
    exact Nat.le_of_mul_le_mul_left (ten.trans covered) (by omega)
  · obtain ⟨-, progress, followed, observation, phase⟩ := arrived
    have past := observation.le_now phase
    have closing := observation.closing
    have window := minObservation_le_observationWindow config.interval
    have elapsed := observation.elapsed
    refine ⟨progress, followed, phase, ?_, ?_, by omega, by omega⟩
    · rw [← round]
      exact observation.letters
    · have same : progress.machine.state.elapsed.nanos =
          (progress.world.clock.now - progress.machine.state.startTime).nanos := by
        rw [elapsed, ← observation.startTime, Span.nanos_sub]
      exact congrArg Span.mk same
  · intro crashes
    rw [← round]
    exact exists_crash spares crashes arrived
  · intro crashes calm bound enough
    subst calm
    rw [← round]
    exact exists_stepsUntil_crashed crashes arrived enough

/-- With an interval of thirty seconds a machine comes to its first ceiling in twelve to eighteen
rounds, also through an outage. -/
theorem reaches_ceiling_through_outage :
    (Schedule.outage 3 8).SparesClock ∧ ∃ count, 12 ≤ count ∧ count ≤ 18 ∧ ∃ last,
      (fresh ⟨1, "worker", 2, 30, 12345⟩ .crash ⟨12345, 0⟩ 1007 (World.ofSeed 7)).follow
        ((Schedule.outage 3 8).moves (count + 2)) = .ok last ∧ last.machine.phase = .crashed := by
  obtain ⟨count, least, most, -, -, -, crash, -⟩ :=
    reaches_ceiling ⟨1, "worker", 2, 30, 12345⟩ .crash ⟨12345, 0⟩ 1007 (World.ofSeed 7)
      (Schedule.outage_sparesClock 3 8) (by decide)
  have fewest : observationWindow 30 ⌈/⌉ longestRound 30 = 12 := by decide
  have greatest : observationWindow 30 ⌈/⌉ shortestRound 30 = 18 := by decide
  obtain ⟨last, followed, crashed, -⟩ := crash rfl
  exact ⟨Schedule.outage_sparesClock 3 8, count, fewest ▸ least, greatest ▸ most, last, followed,
    crashed⟩

end Fresh

end Progress

end Heartbeat
