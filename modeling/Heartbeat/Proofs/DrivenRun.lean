import Heartbeat.Proofs.Cadence

/-!
# Driven runs

A drive runs a fresh machine up to a horizon (`Drive.progress_eq_ok_iff`). If the horizon is not
before the first ceiling, the run passes it (`Drive.exists_ceiling`), and what happens there is
taken up from the machine at its ceiling: a machine that crashes ends the run at once
(`Drive.progress_of_crash`), and a machine that falls silent passes the steps of its stall
(`Progress.Passes.stall`). Wherever a run has come to, it has an end as long as the clock can hold
the steps that are left (`Drive.exists_last`), and what every step keeps holds there
(`Drive.holds_of_kept`).
-/

set_option autoImplicit false
set_option relaxedAutoImplicit false

namespace Heartbeat

open Machine (SameMake Transition)
open Progress

/-! ### To the first ceiling -/

/-- The sleep of an instance before its loop in nanoseconds. -/
def Instance.sleep (config : Instance) : ℕ :=
  (Span.ofSeconds (config.delay.toInt - 1).toNat).nanos

/-- The time before which an instance comes to its first ceiling, in nanoseconds after its start. -/
def Instance.closing (config : Instance) : ℕ :=
  config.sleep + observationWindow config.interval + longestRound config.interval

theorem loopStart_ofSeed (config : Instance) (seed : UInt64) :
    loopStart config (World.ofSeed seed) = config.sleep :=
  Nat.zero_add _

namespace Drive

/-- The start of the run of an instance. -/
def start (drive : Drive) (config : Instance) : Progress :=
  fresh config drive.role ⟨config.port, drive.failEvery⟩ (Identity.ofSeed drive.seed).pid
    (World.ofSeed drive.seed)

/-- The run ends with a crash. -/
def ends (event : Event) : Bool :=
  event == .crashed

theorem ends_eq_false {event : Event} (running : event ≠ .crashed) : ends event = false :=
  beq_eq_false_iff_ne.mpr running

theorem progress_eq_ok_iff {drive : Drive} {config : Instance} {last : Progress} :
    drive.progress config = .ok last ↔
      Progress.run drive.goesOn ends maxSteps (drive.start config) = .ok last := by
  unfold progress
  show Except.mapError _ (Progress.run drive.goesOn ends maxSteps (drive.start config)) = _ ↔ _
  cases Progress.run drive.goesOn ends maxSteps (drive.start config) <;> simp [Except.mapError]

theorem goesOn_iff {drive : Drive} {world : World} :
    drive.goesOn world = true ↔ world.clock.now.nanos < drive.horizon.nanos := by
  unfold goesOn
  rw [decide_eq_true_eq, Span.lt_iff]

/-- A drive makes no more steps than the guard allows. -/
theorem size_events_le {drive : Drive} {config : Instance} {last : Progress}
    (ran : drive.progress config = .ok last) : last.events.size ≤ maxSteps := by
  have bound := size_events_le_of_run (progress_eq_ok_iff.mp ran)
  rwa [show (drive.start config).events.size = 0 from rfl, Nat.zero_add] at bound

/-- A drive ends at its horizon, with a crash, or when it has made as many steps as the guard
allows. -/
theorem ending {drive : Drive} {config : Instance} {last : Progress}
    (ran : drive.progress config = .ok last) :
    drive.horizon.nanos ≤ last.world.clock.now.nanos ∨
      (∃ time, last.events.back? = some ⟨time, .crashed⟩) ∨ last.events.size = maxSteps := by
  rcases run_ends (progress_eq_ok_iff.mp ran) with stopped | ⟨stamped, final, ended⟩ | made
  · rw [← Bool.not_eq_true, goesOn_iff] at stopped
    exact .inl (Nat.le_of_not_lt stopped)
  · obtain ⟨time, event⟩ := stamped
    cases beq_iff_eq.mp ended
    exact .inr (.inl ⟨time, final⟩)
  · rw [show (drive.start config).events.size = 0 from rfl, Nat.zero_add] at made
    exact .inr (.inr made)

/-- A run whose horizon is not before the end of the observation window and a longest round passes
its first ceiling. -/
theorem exists_ceiling (drive : Drive) (config : Instance) (fits : config.closing < UInt64.size)
    (enough : config.closing ≤ drive.horizon.nanos) :
    ∃ count ceiling,
      observationWindow config.interval ⌈/⌉ longestRound config.interval ≤ count ∧
      count ≤ observationWindow config.interval ⌈/⌉ shortestRound config.interval ∧
      Passes drive.goesOn ends (count + 1) (drive.start config) ceiling ∧
      Observation (drive.machine config) config.interval config.sleep count ceiling ∧
      ceiling.machine.phase = .ceiling := by
  have keeps := Machine.keeps_create config drive.role ⟨config.port, drive.failEvery⟩
    (Identity.ofSeed drive.seed).pid (World.ofSeed drive.seed).clock
  unfold Instance.closing at fits enough
  have started := Progress.observedIn_fresh config drive.role ⟨config.port, drive.failEvery⟩
    (Identity.ofSeed drive.seed).pid (World.ofSeed drive.seed) Schedule.calm_sparesClock (by
      rw [loopStart_ofSeed]
      omega)
  rw [loopStart_ofSeed] at started
  obtain ⟨count, least, most, -, ceiling, followed, observation, phase⟩ :=
    Progress.exists_arrival keeps fits Schedule.calm_sparesClock started
  refine ⟨count, ceiling, least, most, ?_, observation, phase⟩
  have going : drive.goesOn ceiling.world = true :=
    goesOn_iff.mpr (Nat.lt_of_lt_of_le observation.closing enough)
  refine Progress.passes_of_follow ?_ followed going ?_
  · intro world later earlier still
    exact goesOn_iff.mpr (Nat.lt_of_le_of_lt earlier (goesOn_iff.mp still))
  · exact fun stamped member ↦ ends_eq_false (observation.ne_crashed stamped member)

/-- A machine that crashes ends its run in the step after its first ceiling. -/
theorem progress_of_crash {drive : Drive} {config : Instance} {count : ℕ} {ceiling : Progress}
    (passes : Passes drive.goesOn ends (count + 1) (drive.start config) ceiling)
    (phase : ceiling.machine.phase = .ceiling) (role : ceiling.machine.role = .crash)
    (going : ceiling.world.clock.now.nanos < drive.horizon.nanos) (short : count + 2 ≤ maxSteps) :
    drive.progress config = .ok (Progress.after ceiling.events ceiling.notices
      ⟨{ ceiling.machine with phase := .crashed }, ceiling.world, .crashed,
        some (.stopped ceiling.machine.state.elapsed)⟩) :=
  progress_eq_ok_iff.mpr
    (passes.run_eq (goesOn_iff.mpr going) (.crash phase role) (beq_self_eq_true _) short)

/-! ### What every driven run keeps -/

section Kept

variable {drive : Drive} {config : Instance} {last : Progress}

/-- What holds at the start of a run and is kept by every step holds at its end. -/
theorem holds_of_kept {holds : Progress → Prop} (kept : Kept holds)
    (now : holds (drive.start config)) (ran : drive.progress config = .ok last) : holds last :=
  kept.run now (progress_eq_ok_iff.mp ran)

theorem opened (ran : drive.progress config = .ok last) : Opened last :=
  holds_of_kept kept_opened ⟨fun _ ↦ rfl, fun started ↦ absurd rfl started⟩ ran

theorem carries (ran : drive.progress config = .ok last) : Carries (drive.machine config) last :=
  holds_of_kept (stable_carries _).step
    ⟨SameMake.refl _, fun _ member ↦ absurd member (Array.not_mem_empty _)⟩ ran

theorem reachable_start (drive : Drive) (config : Instance) :
    Reachable ⟨config.port, drive.failEvery⟩ (drive.start config) :=
  ⟨rfl, rfl, fun _ ↦ ⟨Nat.zero_le _, rfl, (Nat.zero_div _).symm, (Nat.zero_div _).symm⟩⟩

theorem reachable (ran : drive.progress config = .ok last) :
    Reachable ⟨config.port, drive.failEvery⟩ last :=
  holds_of_kept (kept_reachable _) (reachable_start drive config) ran

theorem past_start (drive : Drive) (config : Instance) : Past (drive.start config) :=
  fun _ member ↦ absurd member List.not_mem_nil

/-- A run whose role is not to crash does not crash. -/
theorem uncrashed (role : drive.role ≠ .crash) (ran : drive.progress config = .ok last) :
    Uncrashed last := by
  refine holds_of_kept kept_uncrashed ⟨role, ?_, ?_⟩ ran
  · exact fun impossible ↦ nomatch impossible
  · exact fun _ member ↦ absurd member (Array.not_mem_empty _)

/-- A run without heartbeats sends nothing. -/
theorem mute (disabled : jitterBounds config.interval = none)
    (ran : drive.progress config = .ok last) : Mute last :=
  holds_of_kept stable_mute.step ⟨(Machine.activeJitter_create _ _ _ _ _).trans disabled, rfl⟩ ran

/-- A run whose role is not to fall silent keeps its pace, if nothing fails. -/
theorem paced (positive : 0 < config.interval.toInt) (reliable : drive.failEvery = 0)
    (role : drive.role ≠ .noHeartbeat) (small : longestRound config.interval < UInt64.size)
    (ran : drive.progress config = .ok last) :
    Paced (drive.machine config) config.interval last :=
  holds_of_kept (kept_paced positive (Machine.keeps_create _ _ _ _ _) reliable role small)
    ⟨SameMake.refl _, rfl, .fresh⟩ ran

/-- A run whose role is to go on keeps its rhythm. -/
theorem rhythmic {name : String} (role : drive.role = .unrecognized name)
    (uncut : longestRound config.interval < UInt64.size)
    (ran : drive.progress config = .ok last) :
    Rhythmic (drive.machine config) config.interval last :=
  holds_of_kept (kept_rhythmic (Machine.keeps_create _ _ _ _ _) role uncut)
    ⟨SameMake.refl _, .fresh⟩ ran

/-- A run whose role is to go on ends as late as its horizon and its number of steps allow. -/
theorem le_now {name : String} (role : drive.role = .unrecognized name)
    (small : longestRound config.interval < UInt64.size) {time : ℕ}
    (within : time ≤ drive.horizon.nanos)
    (enough : 2 * time + shortestRound config.interval ≤ maxSteps * shortestRound config.interval)
    (ran : drive.progress config = .ok last) : time ≤ last.world.clock.now.nanos := by
  rcases ending ran with late | ⟨stamp, final⟩ | made
  · exact within.trans late
  · exact absurd rfl ((uncrashed (by simp [role]) ran).events _ (Array.mem_of_back? final))
  · have window := shortestRound_le_observationWindow config.interval
    have bound := (rhythmic role small ran).rhythm.least_le
    rw [made] at bound
    omega

end Kept

end Drive

/-! ### To the end of a run -/

/-- A machine that can make every step, as long as the clock can hold the longest one. -/
structure Durable (made : Machine) (interval : Int64) (longest : ℕ) : Prop where
  keeps : Keeps made interval
  rounds : longestRound interval ≤ longest
  step : ∃ step, made.timing.stall.step? = some step ∧ step.nanos ≤ longest
  window : ∃ window, made.timing.stall.window? = some window

/-- The stall of an instance in numbers: so many steps, each of the same span. -/
structure Instance.Stalls (config : Instance) (repeats : ℕ) (step : Span) : Prop where
  repeats : (StallPlan.ofInterval config.interval).repeats = repeats
  step : (StallPlan.ofInterval config.interval).step? = some step
  window : (StallPlan.ofInterval config.interval).window?.isSome = true

/-- The machine of a run whose stall is known in numbers can make every step. -/
theorem Drive.durable (drive : Drive) {config : Instance} {repeats : ℕ} {step : Span}
    (stalls : config.Stalls repeats step) {longest : ℕ}
    (rounds : longestRound config.interval ≤ longest) (short : step.nanos ≤ longest) :
    Durable (drive.machine config) config.interval longest :=
  ⟨Machine.keeps_create _ _ _ _ _, rounds, ⟨step, stalls.step, short⟩,
    Option.isSome_iff_exists.mp stalls.window⟩

section Durable

variable {made machine : Machine} {interval : Int64} {longest : ℕ} {world : World}

/-- After its initial delay a durable machine can make a step. -/
theorem Durable.exists_transition (durable : Durable made interval longest)
    (same : SameMake made machine) (started : machine.phase ≠ .initialDelay)
    (fits : world.clock.now.nanos + longest < UInt64.size) :
    ∃ outcome, Transition machine world outcome := by
  have rounds := durable.rounds
  cases phase : machine.phase with
  | initialDelay => exact absurd phase started
  | looping =>
    exact Machine.exists_round phase (same.activeJitter_eq.trans durable.keeps.range) (by omega)
  | ceiling =>
    cases role : machine.role with
    | crash => exact ⟨_, .crash phase role⟩
    | noHeartbeat => exact ⟨_, .fallSilent phase role⟩
    | unrecognized name => exact ⟨_, .goOn phase role⟩
  | stalling remaining =>
    cases remaining with
    | zero =>
      obtain ⟨window, silence⟩ := durable.window
      rw [← same.timing] at silence
      exact ⟨_, .endStall phase silence⟩
    | succ remaining =>
      obtain ⟨step, silence, short⟩ := durable.step
      rw [← same.timing] at silence
      obtain ⟨later, wait, -⟩ := @World.exists_advance world step (by omega)
      exact ⟨_, .keepSilent phase silence wait⟩
  | crashed => exact ⟨_, .rest phase⟩

/-- After its initial delay a durable machine takes no longer for a step than the longest one. -/
theorem Durable.duration_le {outcome : Machine.Outcome} (durable : Durable made interval longest)
    (same : SameMake made machine) (started : machine.phase ≠ .initialDelay)
    (transition : Transition machine world outcome) :
    (outcome.event.duration machine.timing.stall).nanos ≤ longest := by
  by_cases looping : machine.phase = .looping
  · obtain ⟨-, most⟩ := transition.round_mem_range looping
      (same.activeJitter_eq.trans durable.keeps.range)
    exact most.trans durable.rounds
  · cases transition with
    | delay phase => exact absurd phase started
    | idle phase | beat phase => exact absurd phase looping
    | keepSilent phase silence wait =>
      obtain ⟨step, planned, short⟩ := durable.step
      rw [← same.timing, silence, Option.some_inj] at planned
      simp only [Event.duration, silence, Option.getD_some, planned]
      exact short
    | crash | fallSilent | goOn | endStall | rest => exact Nat.zero_le _

/-- The run of a durable machine has an end, if the clock can hold the steps that are left. -/
theorem Durable.exists_run (durable : Durable made interval longest) {goesOn : World → Bool}
    {ends : Event → Bool} {progress : Progress} (same : SameMake made progress.machine)
    (started : progress.machine.phase ≠ .initialDelay) {fuel : ℕ}
    (fits : progress.world.clock.now.nanos + fuel * longest < UInt64.size) :
    ∃ last, progress.run goesOn ends fuel = .ok last := by
  refine @Progress.exists_run goesOn ends progress fuel (fun fuel progress ↦
    SameMake made progress.machine ∧ progress.machine.phase ≠ .initialDelay ∧
      progress.world.clock.now.nanos + fuel * longest < UInt64.size) ?_ ⟨same, started, fits⟩
  rintro fuel progress ⟨same, started, fits⟩
  rw [Nat.succ_mul] at fits
  obtain ⟨outcome, transition⟩ := durable.exists_transition same started
    (by omega : progress.world.clock.now.nanos + longest < UInt64.size)
  have short := durable.duration_le same started transition
  have moved := Clock.nanos_now_of_advance transition.advance_duration
  rw [Nat.mod_eq_of_lt (by omega)] at moved
  refine ⟨outcome, transition, same.trans transition.sameMake, transition.phase_ne_initialDelay, ?_⟩
  show outcome.world.clock.now.nanos + fuel * longest < UInt64.size
  omega

/-- A run that passes a progress of a durable machine has an end, and the end is that of a run from
there. -/
theorem Drive.exists_last {drive : Drive} {config : Instance} {count : ℕ} {later : Progress}
    (durable : Durable (drive.machine config) config.interval longest)
    (passes : Passes drive.goesOn Drive.ends count (drive.start config) later)
    (same : SameMake (drive.machine config) later.machine)
    (started : later.machine.phase ≠ .initialDelay) (short : count ≤ maxSteps)
    (fits : later.world.clock.now.nanos + maxSteps * longest < UInt64.size) :
    ∃ last fuel, drive.progress config = .ok last ∧
      Progress.run drive.goesOn Drive.ends fuel later = .ok last := by
  obtain ⟨fuel, enough⟩ := Nat.exists_eq_add_of_le short
  have left : fuel * longest ≤ maxSteps * longest :=
    Nat.mul_le_mul_right longest (enough.symm ▸ Nat.le_add_left fuel count)
  obtain ⟨last, rest⟩ := @Durable.exists_run _ _ _ durable drive.goesOn Drive.ends later same
    started fuel (by omega)
  refine ⟨last, fuel, Drive.progress_eq_ok_iff.mpr ?_, rest⟩
  rw [enough, passes]
  exact rest

end Durable

/-! ### Through a stall -/

/-- The events of a stall with their times: steps of the stall, each one step after the one
before. -/
inductive Ticks (step : ℕ) : ℕ → ℕ → List Stamped → Prop
  | nil {now : ℕ} : Ticks step now now []
  | cons {start stop remaining : ℕ} {time : Clock} {ticks : List Stamped}
      (ticked : time.now.nanos = start + step) (later : Ticks step (start + step) stop ticks) :
      Ticks step start stop (⟨time, .stalled remaining⟩ :: ticks)

namespace Ticks

variable {step start stop : ℕ} {ticks : List Stamped}

theorem isStalled (ticking : Ticks step start stop ticks) :
    ∀ tick ∈ ticks, tick.event.isStalled = true := by
  induction ticking with
  | nil => simp
  | cons ticked later ih =>
    intro tick member
    rcases List.mem_cons.mp member with rfl | other
    · rfl
    · exact ih tick other

theorem head_eq (ticking : Ticks step start stop ticks) :
    ∀ tick ∈ ticks.head?, tick.time.now.nanos = start + step := by
  cases ticking with
  | nil => simp
  | cons ticked later =>
    intro tick found
    cases found
    exact ticked

/-- Each step of a stall is one step after the one before. -/
theorem isChain (ticking : Ticks step start stop ticks) :
    ticks.IsChain fun earlier later ↦ later.time.now.nanos = earlier.time.now.nanos + step := by
  induction ticking with
  | nil => exact .nil
  | cons ticked later ih =>
    refine ih.cons fun tick found ↦ ?_
    rw [later.head_eq tick found, ticked]

/-- The last step of a stall is its end. -/
theorem getLast?_eq (ticking : Ticks step start stop ticks) :
    ((ticks.getLast?.map fun tick ↦ tick.time.now.nanos).getD start) = stop := by
  induction ticking with
  | nil => rfl
  | @cons start stop remaining time ticks ticked later ih =>
    cases later with
    | nil => exact ticked
    | cons next final =>
      rw [List.getLast?_cons_cons]
      rw [List.getLast?_cons] at ih ⊢
      exact ih

end Ticks

/-- A run passes the steps of a stall. -/
theorem Progress.Passes.stall {goesOn : World → Bool} {ends : Event → Bool}
    {first : Progress} {step : Span} (unfinished : ∀ remaining, ends (.stalled remaining) = false)
    {remaining count : ℕ} {silent : Progress} (passes : Passes goesOn ends count first silent)
    (phase : silent.machine.phase = .stalling remaining)
    (planned : silent.machine.timing.stall.step? = some step)
    (fits : silent.world.clock.now.nanos + remaining * step.nanos < UInt64.size)
    (going : ∀ world : World, world.clock.now.nanos ≤
      silent.world.clock.now.nanos + remaining * step.nanos → goesOn world = true) :
    ∃ awake ticks, Passes goesOn ends (count + remaining) first awake ∧
      SameMake silent.machine awake.machine ∧ awake.machine.phase = .stalling 0 ∧
      awake.world.recorder = silent.world.recorder ∧
      awake.events.toList = silent.events.toList ++ ticks ∧ ticks.length = remaining ∧
      Ticks step.nanos silent.world.clock.now.nanos awake.world.clock.now.nanos ticks ∧
      awake.world.clock.now.nanos = silent.world.clock.now.nanos + remaining * step.nanos := by
  induction remaining generalizing count silent with
  | zero =>
    exact ⟨silent, [], passes, SameMake.refl _, phase, rfl, (List.append_nil _).symm, rfl, .nil,
      by omega⟩
  | succ remaining ih =>
    rw [Nat.succ_mul] at fits going
    obtain ⟨later, wait, moved⟩ := @World.exists_advance silent.world step (by omega)
    have transition : Transition silent.machine silent.world _ := .keepSilent phase planned wait
    have next := passes.step (going _ (Nat.le_add_right _ _)) transition (unfinished remaining)
    obtain ⟨clock, -, rfl⟩ := World.advance_eq_ok_iff.mp wait
    have shown : clock.now.nanos = silent.world.clock.now.nanos + step.nanos := moved
    have left : clock.now.nanos + remaining * step.nanos < UInt64.size := by omega
    have still : ∀ world : World, world.clock.now.nanos ≤
        clock.now.nanos + remaining * step.nanos → goesOn world = true :=
      fun world early ↦ going world (by omega)
    obtain ⟨awake, ticks, reached, same, finished, recorder, events, length, ticking, time⟩ :=
      ih next rfl planned left still
    refine ⟨awake, ⟨clock, .stalled remaining⟩ :: ticks, ?_, ?_, finished, recorder, ?_, ?_, ?_, ?_⟩
    · rwa [Nat.add_right_comm] at reached
    · exact transition.sameMake.trans same
    · rw [events]
      simp only [after, Array.toList_push, List.append_assoc, List.singleton_append]
    · rw [List.length_cons, length]
    · refine .cons shown ?_
      rw [← shown]
      exact ticking
    · rw [time, Nat.succ_mul]
      show clock.now.nanos + _ = _
      omega

end Heartbeat
