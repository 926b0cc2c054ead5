import Heartbeat.Proofs.ScenarioInstances

/-!
# Scenarios that fall silent

A drive whose role is to fall silent comes to its first ceiling and then to the end of its first
stall (`Drive.exists_awake`). `Drive.Slept` says what the run looks like there: nothing was sent
since the ceiling, and the events of the stall follow each other by one step. One scenario never
has a heartbeat at all (`Scenario.succeeds_silentStall`), the other one beats again right after
its stall (`Scenario.succeeds_stallWindow`).
-/

set_option autoImplicit false
set_option relaxedAutoImplicit false

namespace Heartbeat

open Machine (SameMake Transition)
open Progress (Continues Passes)

/-! ### To the end of the first stall -/

namespace Drive

/-- What is known of a run at the end of its first stall, with the progress at the ceiling before
it, the number of rounds up to there, and the events of the stall. -/
structure Slept (drive : Drive) (config : Instance) (repeats : ℕ) (step : Span) (count : ℕ)
    (ceiling awake : Progress) (ticks : List Stamped) : Prop where
  reached : Passes drive.goesOn ends (count + 1) (drive.start config) ceiling
  passes : Passes drive.goesOn ends (count + 2 + repeats) (drive.start config) awake
  observation : Observation (drive.machine config) config.interval config.sleep count ceiling
  same : SameMake (drive.machine config) awake.machine
  phase : awake.machine.phase = .stalling 0
  recorder : awake.world.recorder = ceiling.world.recorder
  events : awake.events.toList = ceiling.events.toList ++ ⟨ceiling.world.clock,
    .ceilingReached ceiling.machine.state.elapsed ceiling.machine.role⟩ :: ticks
  length : ticks.length = repeats
  ticking : Ticks step.nanos ceiling.world.clock.now.nanos awake.world.clock.now.nanos ticks
  now_lt : awake.world.clock.now.nanos < config.closing + repeats * step.nanos

variable {config : Instance} {repeats : ℕ} {step : Span}

/-- A run whose role is to fall silent comes to the end of its first stall, if the horizon allows
it to come that far. -/
theorem exists_awake (drive : Drive) (stalls : config.Stalls repeats step)
    (role : drive.role = .noHeartbeat)
    (fits : config.closing + repeats * step.nanos < UInt64.size)
    (enough : config.closing + repeats * step.nanos ≤ drive.horizon.nanos) :
    ∃ count ceiling awake ticks,
      count ≤ observationWindow config.interval ⌈/⌉ shortestRound config.interval ∧
      drive.Slept config repeats step count ceiling awake ticks := by
  obtain ⟨count, ceiling, -, most, passes, observation, phase⟩ :=
    drive.exists_ceiling config (by omega) (by omega)
  have closing : ceiling.world.clock.now.nanos < config.closing := observation.closing
  have silent : ceiling.machine.role = .noHeartbeat := observation.same.role.trans role
  have plan : ceiling.machine.timing.stall = StallPlan.ofInterval config.interval :=
    congrArg Timing.stall observation.same.timing
  have transition : Transition ceiling.machine ceiling.world _ := .fallSilent phase silent
  have stalling : Phase.stalling ceiling.machine.timing.stall.repeats = .stalling repeats := by
    rw [plan, stalls.repeats]
  have falling := passes.step (goesOn_iff.mpr (by omega)) transition (ends_eq_false (by simp))
  obtain ⟨awake, ticks, reached, same, finished, recorder, events, length, ticking, time⟩ :=
    falling.stall (fun remaining ↦ ends_eq_false (by simp)) stalling
      ((congrArg StallPlan.step? plan).trans stalls.step)
      (Nat.lt_of_le_of_lt (Nat.add_le_add_right closing.le _) fits)
      fun world early ↦ goesOn_iff.mpr (by
        have before : world.clock.now.nanos ≤
          ceiling.world.clock.now.nanos + repeats * step.nanos := early
        omega)
  refine ⟨count, ceiling, awake, ticks, most, passes, reached, observation,
    (observation.same.trans transition.sameMake).trans same, finished, recorder, ?_, length,
    ticking, ?_⟩
  · rw [events]
    simp [Progress.after]
  · rw [time]
    exact Nat.add_lt_add_right closing _

end Drive

/-! ### A run without heartbeats -/

namespace Scenario

variable {seed : UInt64} {horizon : Span}

/-- The scenario without heartbeats succeeds, whatever the seed and however late the horizon is. -/
theorem succeeds_silentStall (enough : 900000000000 ≤ horizon.nanos) :
    Scenario.silentStall.Succeeds seed horizon := by
  have stalls : Instance.Stalls ⟨2, "idler", 0, 0, 12345⟩ 50 (Span.ofSeconds 2) :=
    ⟨by decide +kernel, by decide +kernel, by decide +kernel⟩
  have early : Instance.closing ⟨2, "idler", 0, 0, 12345⟩ + 50 * (Span.ofSeconds 2).nanos ≤
      900000000000 := by decide +kernel
  obtain ⟨count, ceiling, awake, ticks, most, slept⟩ :=
    (Scenario.silentStall.drive seed horizon).exists_awake stalls rfl
      (early.trans_lt (by decide +kernel)) (early.trans enough)
  have awoken : awake.world.clock.now.nanos < 900000000000 := slept.now_lt.trans_le early
  obtain ⟨last, fuel, ran, rest⟩ := Drive.exists_last
    (Drive.durable _ stalls (by decide +kernel) le_rfl) slept.passes slept.same
    (by simp [slept.phase])
    ((Nat.add_le_add_right (Nat.add_le_add_right most 2) _).trans (by decide +kernel))
    (Nat.lt_of_lt_of_le (Nat.add_lt_add_right awoken _) (by decide +kernel))
  have continues := (Progress.kept_continues awake).run (.refl awake) rest
  -- The first step of the stall is among the events at the end.
  obtain ⟨tick, ticked⟩ : ∃ tick, tick ∈ ticks := by
    rw [← List.length_pos_iff_exists_mem, slept.length]
    decide
  have seen : tick ∈ last.trace.events.toList := by
    refine continues.events.subset ?_
    rw [slept.events]
    exact List.mem_append_right _ (List.mem_cons_of_mem _ ticked)
  refine succeeds_of_progress rfl ran ?_
  simp only [expectations, List.forall_mem_cons, List.not_mem_nil, IsEmpty.forall_iff,
    implies_true, and_true]
  refine ⟨?_, ?_, ?_⟩
  · rw [beq_iff_eq]
    exact congrArg Array.size (Drive.mute (by decide) ran).sent
  · exact (Drive.uncrashed (by simp [drive, role]) ran).isNone_crashedAt
  · exact decide_eq_true (Trace.count_pos seen (slept.ticking.isStalled tick ticked))

end Scenario

/-! ### Beating again after a stall -/

namespace Drive

variable {drive : Drive} {config : Instance} {repeats : ℕ} {step : Span} {count : ℕ}
  {ceiling awake : Progress} {ticks : List Stamped}

/-- What a run that continues one that has slept has delivered was delivered up to the ceiling or
since the end of the stall. -/
theorem Slept.sent_outside (slept : drive.Slept config repeats step count ceiling awake ticks)
    {last : Progress} (continues : Continues awake last) {datagram : Datagram}
    (member : datagram ∈ last.world.recorder.sent) :
    datagram.time.now.nanos ≤ ceiling.world.clock.now.nanos ∨
      awake.world.clock.now.nanos ≤ datagram.time.now.nanos := by
  have past := slept.reached.holds Progress.kept_past (past_start drive config)
  have same : awake.sentTimes = ceiling.sentTimes := by
    unfold Progress.sentTimes
    rw [slept.recorder]
  obtain ⟨more, sent, late⟩ := continues.sent
  have listed : datagram.time.now.nanos ∈ last.sentTimes :=
    List.mem_map_of_mem (Array.mem_toList_iff.mpr member)
  rw [sent, same] at listed
  rcases List.mem_append.mp listed with old | new
  · exact .inl (past _ old)
  · exact .inr (late _ new)

/-- What is known of a run after the first heartbeat that follows its first stall. -/
structure Resumed (drive : Drive) (config : Instance) (count : ℕ) (awake resumed : Progress)
    (sent : Stamped) : Prop where
  passes : Passes drive.goesOn ends count (drive.start config) resumed
  same : SameMake (drive.machine config) resumed.machine
  started : resumed.machine.phase ≠ .initialDelay
  continues : Continues awake resumed
  events : resumed.events.toList = awake.events.toList ++
    [⟨awake.world.clock, .stallFinished⟩, sent]
  delivered : sent.event.isSent = true
  most : resumed.world.clock.now.nanos ≤
    awake.world.clock.now.nanos + longestRound config.interval

/-- A run that has slept beats again, if nothing fails and the horizon allows it. -/
theorem Slept.exists_resumed (slept : drive.Slept config repeats step count ceiling awake ticks)
    (stalls : config.Stalls repeats step) (positive : 0 < config.interval.toInt)
    (reliable : drive.failEvery = 0)
    (fits : awake.world.clock.now.nanos + longestRound config.interval < UInt64.size)
    (going : awake.world.clock.now.nanos < drive.horizon.nanos) :
    ∃ resumed sent, drive.Resumed config (count + 2 + repeats + 2) awake resumed sent := by
  obtain ⟨window, silence⟩ := Option.isSome_iff_exists.mp stalls.window
  have plan : awake.machine.timing.stall = StallPlan.ofInterval config.interval :=
    congrArg Timing.stall slept.same.timing
  have ended : Transition awake.machine awake.world _ :=
    .endStall slept.phase ((congrArg StallPlan.window? plan).trans silence)
  have range : awake.machine.activeJitter = jitterBounds config.interval :=
    slept.same.activeJitter_eq.trans (Machine.activeJitter_create _ _ _ _ _)
  obtain ⟨outcome, beaten⟩ := @Machine.exists_round _ awake.world config.interval rfl
    (ended.sameMake.activeJitter_eq.trans range) fits
  have enabled : awake.machine.activeJitter ≠ none := by
    rw [range, Ne, Machine.jitterBounds_eq_none_iff, not_not]
    exact positive
  have reachable := slept.passes.holds (Progress.kept_reachable _) (reachable_start drive config)
  have delivered : outcome.event.isSent = true := by
    refine Progress.isSent_of_reliable ?_ reachable.reachable beaten
      ((beaten.letter_eq_attempt_iff enabled).mpr rfl)
    exact (congrArg Tap.failEvery reachable.tap_eq).trans reliable
  have running : outcome.event ≠ .crashed := by
    intro crashed
    rw [crashed] at delivered
    cases delivered
  have finished := slept.passes.step (goesOn_iff.mpr going) ended (ends_eq_false (by simp))
  refine ⟨_, ⟨outcome.world.clock, outcome.event⟩,
    finished.step (goesOn_iff.mpr going) beaten (ends_eq_false running),
    (slept.same.trans ended.sameMake).trans beaten.sameMake, beaten.phase_ne_initialDelay, ?_, ?_,
    delivered, ?_⟩
  · exact Progress.kept_continues awake _ _
      (Progress.kept_continues awake _ _ (.refl awake) ended) beaten
  · simp [Progress.after]
  · exact (beaten.now_mem_range rfl (ended.sameMake.activeJitter_eq.trans range) (by omega)).2

/-- The stall that is found in a run that has beaten again: its events are the steps of the stall,
and the first event after its end is the heartbeat. -/
theorem Slept.exists_stallWindow (slept : drive.Slept config repeats step count ceiling awake ticks)
    {rounds fuel : ℕ} {resumed last : Progress} {sent : Stamped}
    (beating : drive.Resumed config rounds awake resumed sent)
    (rest : Progress.run drive.goesOn ends fuel resumed = .ok last) :
    ∃ more, last.trace.stallWindow? = some ⟨ceiling.world.clock.now, ticks,
      ⟨awake.world.clock, .stallFinished⟩ :: sent :: more⟩ := by
  obtain ⟨more, later⟩ := ((Progress.kept_continues resumed).run (.refl resumed) rest).events
  have events : last.trace.events.toList = ceiling.events.toList ++
      ⟨ceiling.world.clock, .ceilingReached ceiling.machine.state.elapsed ceiling.machine.role⟩ ::
        (ticks ++ ⟨awake.world.clock, .stallFinished⟩ :: (sent :: more)) := by
    show last.events.toList = _
    rw [← later, beating.events, slept.events]
    simp
  refine ⟨more, Trace.stallWindow?_eq events ?_ rfl slept.ticking.isStalled rfl⟩
  intro stamped member
  exact slept.observation.isCeiling_eq_false stamped (Array.mem_toList_iff.mp member)

end Drive

namespace Scenario

variable {seed : UInt64} {horizon : Span}

/-- The scenario of a stall succeeds, whatever the seed and however late the horizon is. -/
theorem succeeds_stallWindow (enough : 900000000000 ≤ horizon.nanos) :
    Scenario.stallWindow.Succeeds seed horizon := by
  have stalls : Instance.Stalls ⟨1, "steady", 0, 60, 12345⟩ 49 (Span.ofMillis 6100) :=
    ⟨by decide +kernel, by decide +kernel, by decide +kernel⟩
  have early : Instance.closing ⟨1, "steady", 0, 60, 12345⟩ + 49 * (Span.ofMillis 6100).nanos ≤
      800000000000 := by decide +kernel
  obtain ⟨count, ceiling, awake, ticks, most, slept⟩ :=
    (Scenario.stallWindow.drive seed horizon).exists_awake stalls rfl
      (early.trans_lt (by decide +kernel)) ((early.trans (by decide)).trans enough)
  have awoken : awake.world.clock.now.nanos < 800000000000 := slept.now_lt.trans_le early
  obtain ⟨resumed, sent, beating⟩ := slept.exists_resumed stalls (by decide) rfl
    (Nat.lt_of_lt_of_le (Nat.add_lt_add_right awoken _) (by decide +kernel))
    (Nat.lt_of_lt_of_le (awoken.trans (by decide)) enough)
  have durable : Durable ((Scenario.stallWindow.drive seed horizon).machine
      ⟨1, "steady", 0, 60, 12345⟩) 60 (longestRound 60) :=
    Drive.durable _ stalls le_rfl (by decide +kernel)
  obtain ⟨last, fuel, ran, rest⟩ := Drive.exists_last durable beating.passes beating.same
    beating.started
    ((Nat.add_le_add_right (Nat.add_le_add_right (Nat.add_le_add_right most 2) _) _).trans
      (by decide +kernel))
    (Nat.lt_of_lt_of_le (Nat.add_lt_add_right
      (Nat.lt_of_le_of_lt beating.most (Nat.add_lt_add_right awoken _)) _) (by decide +kernel))
  have continues := (Progress.kept_continues awake).run beating.continues rest
  obtain ⟨more, found⟩ := slept.exists_stallWindow beating rest
  refine succeeds_of_progress rfl ran ?_
  simp only [expectations, found, List.forall_mem_cons, List.not_mem_nil, IsEmpty.forall_iff,
    implies_true, and_true]
  refine ⟨?_, ?_, ?_, ?_, ?_⟩
  · rw [beq_iff_eq, StallWindow.stalls, ← slept.length, List.countP_eq_length]
    exact slept.ticking.isStalled
  · exact StallWindow.spaced_eq slept.ticking (by decide +kernel)
  · rw [beq_iff_eq]
    refine StallWindow.leaked_eq_zero fun datagram member ↦ ?_
    rw [StallWindow.nanos_stop slept.ticking]
    exact slept.sent_outside continues member
  · exact StallWindow.resumes_eq rfl beating.delivered
  · exact (Drive.uncrashed (by simp [drive, role]) ran).isNone_crashedAt

end Scenario

end Heartbeat
