import Heartbeat.Proofs.BinaryRounding
import Heartbeat.Proofs.CrashScenarios
import Heartbeat.Proofs.SilentScenarios

/-!
# All scenarios succeed

The scenario of a role that goes on is judged from a run that neither crashes nor falls silent and
so keeps its pace up to the end (`Scenario.succeeds_healthyRole`). With it every scenario succeeds
for every seed, if its horizon is at least fifteen minutes (`Scenario.passed_run`).
-/

set_option autoImplicit false
set_option relaxedAutoImplicit false

namespace Heartbeat

open Machine (Transition)
open Progress (Started)

/-! ### A role that goes on -/

/-- A run whose role is to go on comes past its first ceiling to an end. -/
theorem Drive.exists_last_of_goOn (drive : Drive) {config : Instance} {name : String}
    (role : drive.role = .unrecognized name) {longest : ℕ}
    (durable : Durable (drive.machine config) config.interval longest)
    (fits : config.closing + maxSteps * longest < UInt64.size)
    (enough : config.closing ≤ drive.horizon.nanos)
    (short : observationWindow config.interval ⌈/⌉ shortestRound config.interval + 2 ≤ maxSteps) :
    ∃ last, drive.progress config = .ok last ∧ Started ⟨config.sleep⟩ last ∧
      0 < last.trace.count Event.isCeiling := by
  obtain ⟨count, ceiling, -, most, passes, observation, phase⟩ :=
    drive.exists_ceiling config (by omega) enough
  have closing : ceiling.world.clock.now.nanos < config.closing := observation.closing
  have goes : Transition ceiling.machine ceiling.world _ :=
    .goOn phase (observation.same.role.trans role)
  have resumes := passes.step (goesOn_iff.mpr (Nat.lt_of_lt_of_le closing enough)) goes
    (ends_eq_false (by simp))
  obtain ⟨last, fuel, ran, rest⟩ := Drive.exists_last durable resumes
    (observation.same.trans goes.sameMake) goes.phase_ne_initialDelay (by omega)
    (Nat.lt_of_le_of_lt (Nat.add_le_add_right closing.le _) fits)
  refine ⟨last, ran, ?_, ?_⟩
  · refine (Progress.kept_started _).run ?_ rest
    exact ⟨goes.phase_ne_initialDelay, congrArg Span.mk observation.startTime⟩
  · have continues := (Progress.kept_continues _).run (.refl _) rest
    have seen : ⟨ceiling.world.clock,
        .ceilingReached ceiling.machine.state.elapsed ceiling.machine.role⟩ ∈
          last.trace.events.toList :=
      continues.events.subset (Array.mem_toList_iff.mpr Array.mem_push_self)
    exact Trace.count_pos seen rfl

namespace Scenario

variable {seed : UInt64} {horizon : Span}

/-- The scenario of a role that goes on succeeds, whatever the seed and however late the horizon
is. -/
theorem succeeds_healthyRole (enough : 900000000000 ≤ horizon.nanos) :
    Scenario.healthyRole.Succeeds seed horizon := by
  have stalls : Instance.Stalls ⟨1, "Process1", 0, 20, 12345⟩ 47 (Span.ofMillis 2100) :=
    ⟨by decide +kernel, by decide +kernel, by decide +kernel⟩
  have early : Instance.closing ⟨1, "Process1", 0, 20, 12345⟩ ≤ 900000000000 := by decide +kernel
  have durable : Durable ((Scenario.healthyRole.drive seed horizon).machine
      ⟨1, "Process1", 0, 20, 12345⟩) 20 (longestRound 20) :=
    Drive.durable _ stalls le_rfl (by decide +kernel)
  obtain ⟨last, ran, started, ceilings⟩ := Drive.exists_last_of_goOn _ rfl durable
    (by decide +kernel) (early.trans enough) (by decide +kernel)
  have late : 900000000000 ≤ last.world.clock.now.nanos :=
    Drive.le_now rfl (by decide +kernel) enough (by decide +kernel) ran
  have later : Instance.sleep ⟨1, "Process1", 0, 20, 12345⟩ < last.world.clock.now.nanos :=
    Nat.lt_of_lt_of_le (by decide +kernel) late
  have paced := Drive.paced (by decide) rfl (by simp [drive, role]) (by decide +kernel) ran
  obtain ⟨datagram, member, recent⟩ : ∃ datagram ∈ last.world.recorder.sent,
      last.world.clock.now.nanos ≤ datagram.time.now.nanos + longestRound 20 :=
    paced.exists_recent started later
  refine succeeds_of_progress rfl ran ?_
  simp only [expectations, List.forall_mem_cons, List.not_mem_nil, IsEmpty.forall_iff,
    implies_true, and_true]
  refine ⟨?_, ?_, ?_, ?_⟩
  · exact (Drive.uncrashed (by simp [drive, role]) ran).isNone_crashedAt
  · exact decide_eq_true ceilings
  · rw [decide_eq_true_eq, Array.countP_pos_iff]
    refine ⟨datagram, member, ?_⟩
    have runtime : last.trace.maxRuntime = Span.ofSeconds (maxRuntime 20) :=
      congrArg Timing.maxRuntime paced.same.timing
    have bound : (Span.ofSeconds (maxRuntime 20) + Span.ofSeconds 60).nanos + longestRound 20 <
        900000000000 := by decide +kernel
    rw [decide_eq_true_eq, runtime, Span.lt_iff]
    omega
  · exact paced.gapsWithin started later (by decide +kernel) (by decide +kernel)

/-! ### All scenarios -/

/-- A number of seconds from fifteen minutes on is a span of at least that time. -/
theorem le_nanos_of_ofNumber? {seconds : ℚ} (enough : 900 ≤ seconds)
    (accepted : Span.ofNumber? seconds = some horizon) : 900000000000 ≤ horizon.nanos := by
  unfold Span.ofNumber? at accepted
  split at accepted
  · cases accepted
  · cases accepted
    have close := (abs_le.mp (Binary64.abs_roundEven_sub_le (seconds * (Span.perSecond : ℚ)))).1
    have second : (Span.perSecond : ℚ) = 1000000000 := by
      unfold Span.perSecond
      norm_num
    have above : ((900000000000 - 1 : ℤ) : ℚ) <
        Binary64.roundEven (seconds * (Span.perSecond : ℚ)) := by
      rw [second] at close ⊢
      push_cast
      linarith
    have integer := Int.cast_lt.mp above
    show 900000000000 ≤ Int.toNat _
    omega

/-- Every scenario passes: for every seed and every horizon of at least fifteen minutes its run has
a result, and the result has passed. -/
theorem passed_run (scenario : Scenario) (seed : UInt64) {seconds : ℚ} (enough : 900 ≤ seconds)
    (accepted : Span.ofNumber? seconds = some horizon) :
    ∃ result logs, scenario.run seed horizon = .ok (result, logs) ∧ result.passed = true := by
  have late := le_nanos_of_ofNumber? enough accepted
  cases scenario with
  | crashCeiling => exact succeeds_crashCeiling late
  | silentStall => exact succeeds_silentStall late
  | missingPort => exact succeeds_missingPort
  | stallWindow => exact succeeds_stallWindow late
  | healthyRole => exact succeeds_healthyRole late
  | lossyTransport => exact succeeds_lossyTransport late

/-- The scenario of a stall with the horizon that is taken if no other one is given. -/
theorem passed_run_defaultHorizon :
    900 ≤ defaultHorizon ∧ Span.ofNumber? defaultHorizon = some (Span.ofSeconds 900) ∧
      ∃ result logs, Scenario.stallWindow.run 7 (Span.ofSeconds 900) = .ok (result, logs) ∧
        result.passed = true := by
  have enough : 900 ≤ defaultHorizon := le_rfl
  have accepted : Span.ofNumber? defaultHorizon = some (Span.ofSeconds 900) := by decide +kernel
  exact ⟨enough, accepted, passed_run .stallWindow 7 enough accepted⟩

end Scenario

end Heartbeat
