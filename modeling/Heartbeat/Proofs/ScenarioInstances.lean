import Heartbeat.Proofs.TraceFindings
import Mathlib.Control.Monad.Basic

/-!
# The instances of the scenarios

The settings of a scenario come to one instance, or to the error of a missing port
(`Scenario.resolution_eq`), whatever the seed and the horizon of its run are. So a scenario
succeeds if the run of its machine shows what is expected of it (`Scenario.succeeds_of_progress`),
and the scenario without a port succeeds at once (`Scenario.succeeds_missingPort`).
-/

set_option autoImplicit false
set_option relaxedAutoImplicit false

namespace Heartbeat

open Heartbeat.Settings

/-! ### From settings to a run -/

/-- What settings come to for an index: the instance, or the error that keeps it from being made. -/
def resolution (settings : String) (index : UInt32) : Except Fault (Except ConfigError Instance) :=
  (Store.load settings).map fun loading ↦
    (loading.outcome.bind fun store ↦ resolve store.accessor index .auto).map Resolved.config

/-- A run ends at the error that its settings come to, or it is the run of the machine of the
instance that they come to. -/
theorem Drive.exists_run_eq {drive : Drive} {made : Except ConfigError Instance}
    (resolved : resolution drive.settings drive.index = .ok made) :
    ∃ notices, drive.run = match made with
      | .error error => .ok ⟨notices, .error error⟩
      | .ok config => (drive.progress config).map fun progress ↦ ⟨notices, .ok progress⟩ := by
  obtain ⟨loading, loaded, found⟩ := map_eq_ok_iff.mp resolved
  have goes (on : Loading → Except Fault Driven) : (Except.ok loading).bind on = on loading := rfl
  refine ⟨loading.notices, ?_⟩
  unfold run
  rw [loaded, goes, ← found]
  cases loading.outcome.bind fun store ↦ resolve store.accessor drive.index .auto <;> rfl

/-- A run that has a trace is the run of the machine of an instance. -/
theorem Drive.exists_progress_of_run {drive : Drive} {driven : Driven} {trace : Trace}
    (ran : drive.run = .ok driven) (observed : driven.trace = .ok trace) :
    ∃ config last, resolution drive.settings drive.index = .ok (.ok config) ∧
      drive.progress config = .ok last ∧ driven.outcome = .ok last ∧ last.trace = trace := by
  obtain ⟨loading, loaded, -⟩ := bind_eq_ok_iff.mp ran
  obtain ⟨made, resolved⟩ : ∃ made, resolution drive.settings drive.index = .ok made :=
    ⟨_, map_eq_ok_iff.mpr ⟨loading, loaded, rfl⟩⟩
  obtain ⟨notices, run⟩ := exists_run_eq resolved
  rw [run] at ran
  cases made with
  | error error =>
    cases ran
    cases observed
  | ok config =>
    obtain ⟨last, progressed, rfl⟩ := map_eq_ok_iff.mp ran
    cases observed
    exact ⟨config, last, resolved, progressed, rfl, rfl⟩

/-! ### From a run to its result -/

/-- There is no shortfall exactly when every expectation is met. -/
theorem firstShortfall_eq_none_iff {expectations : List Expectation} :
    firstShortfall expectations = none ↔
      ∀ expectation ∈ expectations, expectation.met = true := by
  unfold firstShortfall
  rw [Option.map_eq_none_iff, List.find?_eq_none]
  simp

namespace Scenario

/-- A scenario succeeds: its run has a result, and nothing that is expected falls short. -/
def Succeeds (scenario : Scenario) (seed : UInt64) (horizon : Span) : Prop :=
  ∃ result logs, scenario.run seed horizon = .ok (result, logs) ∧ result.passed = true

/-- What the settings of a scenario come to. -/
def resolved : Scenario → Except ConfigError Instance
  | .crashCeiling => .ok ⟨1, "worker", 2, 30, 12345⟩
  | .silentStall => .ok ⟨2, "idler", 0, 0, 12345⟩
  | .missingPort => .error (.missingKey watchdogSection portKey)
  | .stallWindow => .ok ⟨1, "steady", 0, 60, 12345⟩
  | .healthyRole => .ok ⟨1, "Process1", 0, 20, 12345⟩
  | .lossyTransport => .ok ⟨1, "Process1", 0, 10, 12345⟩

theorem resolution_eq (scenario : Scenario) :
    resolution scenario.settings scenario.index = .ok scenario.resolved := by
  cases scenario <;> decide +kernel

variable {scenario : Scenario} {seed : UInt64} {horizon : Span}

/-- A scenario succeeds if the run of its instance meets all its expectations. -/
theorem succeeds_of_progress {config : Instance} {last : Progress}
    (resolved : scenario.resolved = .ok config)
    (ran : (scenario.drive seed horizon).progress config = .ok last)
    (met : ∀ expectation ∈ scenario.expectations last.trace, expectation.met = true) :
    scenario.Succeeds seed horizon := by
  have made : resolution (scenario.drive seed horizon).settings
      (scenario.drive seed horizon).index = .ok (.ok config) :=
    (resolution_eq scenario).trans (congrArg Except.ok resolved)
  obtain ⟨notices, run⟩ := Drive.exists_run_eq made
  refine ⟨scenario.judged seed last.trace,
    scenario.opening seed :: (Driven.mk notices (.ok last)).logs, ?_, ?_⟩
  · unfold Scenario.run
    rw [run]
    dsimp only
    rw [ran]
    rfl
  · exact Option.isNone_iff_eq_none.mpr (firstShortfall_eq_none_iff.mpr met)

/-- The scenario without a port succeeds because its settings are refused for it. -/
theorem succeeds_missingPort : Scenario.missingPort.Succeeds seed horizon := by
  obtain ⟨notices, run⟩ := @Drive.exists_run_eq (Scenario.missingPort.drive seed horizon) _
    (resolution_eq .missingPort)
  exact ⟨Scenario.missingPort.refused seed (.missingKey watchdogSection portKey), _,
    map_eq_ok_iff.mpr ⟨_, run, rfl⟩, rfl⟩

end Scenario

end Heartbeat
