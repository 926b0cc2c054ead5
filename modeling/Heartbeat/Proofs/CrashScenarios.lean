import Heartbeat.Proofs.ScenarioInstances

/-!
# Scenarios that end with a crash

A drive whose role is to crash ends with the crash at its first ceiling (`Drive.exists_crash`), and
`Drive.Crashed` says what is known there. With it both scenarios of a crash are judged: the one
whose deliveries are looked at in time (`Scenario.succeeds_crashCeiling`), and the one whose
deliveries and failures are counted (`Scenario.succeeds_lossyTransport`). The counts are read off
the letters of the run, since every attempt is one letter whatever becomes of it
(`Progress.count_letters`).
-/

set_option autoImplicit false
set_option relaxedAutoImplicit false

namespace Heartbeat

open Progress (Started)

/-! ### The end of the run -/

namespace Drive

/-- What is known at the end of a run that ended with a crash at its first ceiling, after a number
of rounds. -/
structure Crashed (drive : Drive) (config : Instance) (count : ℕ) (last : Progress) : Prop where
  ran : drive.progress config = .ok last
  started : Started ⟨config.sleep⟩ last
  crashedAt : last.trace.crashedAt = some last.world.clock.now
  letters : last.letters = opening (drive.machine config).round count ++ [.crashed]
  least : config.sleep + observationWindow config.interval ≤ last.world.clock.now.nanos
  most : last.world.clock.now.nanos < config.closing

/-- A run whose role is to crash ends with a crash at its first ceiling, if the horizon and the
number of steps allow it to come that far. -/
theorem exists_crash (drive : Drive) (config : Instance) (role : drive.role = .crash)
    (fits : config.closing < UInt64.size) (enough : config.closing ≤ drive.horizon.nanos)
    (short : observationWindow config.interval ⌈/⌉ shortestRound config.interval + 2 ≤ maxSteps) :
    ∃ count last, observationWindow config.interval ⌈/⌉ longestRound config.interval ≤ count ∧
      count ≤ observationWindow config.interval ⌈/⌉ shortestRound config.interval ∧
      drive.Crashed config count last := by
  obtain ⟨count, ceiling, least, most, passes, observation, phase⟩ :=
    drive.exists_ceiling config fits enough
  have past := observation.le_now phase
  have window := Progress.minObservation_le_observationWindow config.interval
  have crashes : ceiling.machine.role = .crash := observation.same.role.trans role
  refine ⟨count, _, least, most, progress_of_crash passes phase crashes
    (Nat.lt_of_lt_of_le observation.closing enough) (by omega),
    ⟨by simp [Progress.after], congrArg Span.mk observation.startTime⟩, ?_, ?_, ?_,
    observation.closing⟩
  · exact Trace.crashedAt_of_push rfl observation.ne_crashed
  · rw [Progress.letters_after, ← observation.letters]
    rfl
  · show _ ≤ ceiling.world.clock.now.nanos
    omega

end Drive

/-! ### The deliveries in time -/

namespace Scenario

variable {seed : UInt64} {horizon : Span}

/-- The scenario of a crash succeeds, whatever the seed and however late the horizon is. -/
theorem succeeds_crashCeiling (enough : 900000000000 ≤ horizon.nanos) :
    Scenario.crashCeiling.Succeeds seed horizon := by
  have early : Instance.closing ⟨1, "worker", 2, 30, 12345⟩ ≤ 900000000000 := by decide +kernel
  obtain ⟨count, last, -, -, crashed⟩ :=
    (Scenario.crashCeiling.drive seed horizon).exists_crash ⟨1, "worker", 2, 30, 12345⟩ rfl
      (early.trans_lt (by decide +kernel)) (early.trans enough) (by decide +kernel)
  have least : (Span.ofSeconds 181).nanos ≤ last.world.clock.now.nanos :=
    le_trans (by decide +kernel) crashed.least
  have most : last.world.clock.now.nanos < (Span.ofSeconds 196).nanos :=
    crashed.most.trans_le (by decide +kernel)
  have start : Span.mk (Instance.sleep ⟨1, "worker", 2, 30, 12345⟩) = Span.ofSeconds 1 := by
    decide +kernel
  have started : Started (Span.ofSeconds 1) last := start ▸ crashed.started
  have later : (Span.ofSeconds 1).nanos < last.world.clock.now.nanos :=
    Nat.lt_of_lt_of_le (by decide +kernel) least
  have found := (Drive.opened crashed.ran).loopStartedAt_eq started
  have paced := Drive.paced (by decide +kernel) rfl (by simp [drive, role]) (by decide +kernel)
    crashed.ran
  refine succeeds_of_progress rfl crashed.ran ?_
  simp only [expectations, List.forall_mem_cons, List.not_mem_nil, IsEmpty.forall_iff,
    implies_true, and_true]
  refine ⟨?_, ?_, ?_, ?_, ?_⟩
  · rw [beq_iff_eq, found]
  · rw [beq_iff_eq, found]
    exact paced.first_eq started later
  · exact (Drive.carries crashed.ran).carriesPid
  · exact paced.gapsWithin started later (by decide +kernel) (by decide +kernel)
  · rw [crashed.crashedAt, Option.any_some, Bool.and_eq_true, decide_eq_true_eq,
      decide_eq_true_eq, Span.le_iff, Span.le_iff]
    exact ⟨least, most.le⟩

/-! ### The deliveries and the failures in number -/

end Scenario

namespace Progress

/-- Every attempt is a delivery or a failure, and nothing else is. -/
theorem count_letters (progress : Progress) :
    progress.trace.count Event.isSent + progress.trace.count Event.isFailed =
      progress.letters.count .attempt := by
  unfold Trace.count letters
  rw [← Array.countP_toList, ← Array.countP_toList]
  show progress.events.toList.countP _ + progress.events.toList.countP _ = _
  induction progress.events.toList with
  | nil => rfl
  | cons stamped events ih =>
    obtain ⟨time, event⟩ := stamped
    rw [List.countP_cons, List.countP_cons, List.map_cons, List.count_cons, ← ih]
    cases event <;> simp [Event.isSent, Event.isFailed, Event.letter] <;> omega

end Progress

namespace Scenario

variable {seed : UInt64} {horizon : Span}

/-- The scenario of a lossy transport succeeds, whatever the seed and however late the horizon
is. -/
theorem succeeds_lossyTransport (enough : 900000000000 ≤ horizon.nanos) :
    Scenario.lossyTransport.Succeeds seed horizon := by
  have early : Instance.closing ⟨1, "Process1", 0, 10, 12345⟩ ≤ 900000000000 := by decide +kernel
  obtain ⟨count, last, least, most, crashed⟩ :=
    (Scenario.lossyTransport.drive seed horizon).exists_crash ⟨1, "Process1", 0, 10, 12345⟩ rfl
      (early.trans_lt (by decide +kernel)) (early.trans enough) (by decide +kernel)
  have least : 36 ≤ count := le_trans (by decide +kernel) least
  have most : count ≤ 60 := most.trans (by decide +kernel)
  have round : ((Scenario.lossyTransport.drive seed horizon).machine
      ⟨1, "Process1", 0, 10, 12345⟩).round = .attempt :=
    (Machine.round_create _ _ _ _ _).trans (by decide +kernel)
  have letters : last.letters = Heartbeat.opening .attempt count ++ [.crashed] := by
    rw [crashed.letters, round]
  have attempts : last.letters.count .attempt = count := by
    simp [letters, Heartbeat.opening]
  have size : last.events.size = count + 2 := by
    rw [← last.length_letters, letters]
    simp [Heartbeat.opening]
  obtain ⟨-, made, failed, failures⟩ := (Drive.reachable crashed.ran).accounted (by
    rw [size]
    exact Nat.lt_of_le_of_lt (Nat.add_le_add_right most 2) (by decide))
  have every : (Scenario.lossyTransport.drive seed horizon).failEvery.toNat = 3 := rfl
  have counted := last.count_letters
  rw [attempts] at counted
  rw [every] at failed failures
  change last.trace.count Event.isSent + last.trace.count Event.isFailed = _ at made
  change last.trace.count Event.isFailed = _ at failed
  rw [← made, counted] at failed failures
  refine succeeds_of_progress rfl crashed.ran ?_
  simp only [expectations, List.forall_mem_cons, List.not_mem_nil, IsEmpty.forall_iff,
    implies_true, and_true, Bool.and_eq_true, decide_eq_true_eq, beq_iff_eq]
  refine ⟨⟨?_, ?_⟩, ⟨?_, ?_⟩, ?_⟩
  · omega
  · exact failed.trans failures.symm
  · omega
  · omega
  · rw [crashed.crashedAt]
    rfl

end Scenario

end Heartbeat
