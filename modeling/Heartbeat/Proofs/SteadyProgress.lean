import Heartbeat.Proofs.Interference
import Heartbeat.Proofs.StepGuard

/-!
# A clock that does not stand still

Some steps take no time: the initial delay when there is nothing to sleep, the ceiling, the end of a
stall and the crash. Rounds of the loop and steps of a stall do take time, at least the shortest
wait (`Transition.moved`), and a step that takes none leads to one that does, because a stall has
one step or more (`Transition.takesTime_of_free`). So as long as a machine has not crashed every
second step moves its clock. `Steady` counts these steps from any progress on, and every undisturbed
step keeps it (`stable_steady`).

A drive ends with a crash or at its horizon after at most two steps for each shortest wait before
the horizon, with or without its guard on the number of steps. `steady_progress` is the statement
about both.
-/

set_option autoImplicit false
set_option relaxedAutoImplicit false

namespace Heartbeat

open Machine (SameMake Transition)

/-- The phases whose step takes time: the loop, and a stall that is not over. -/
def Phase.takesTime : Phase → Bool
  | .looping | .stalling (_ + 1) => true
  | .initialDelay | .ceiling | .stalling 0 | .crashed => false

/-- The rounds of the loop are not cut for intervals up to 2^31. -/
theorem longestRound_lt {interval : Int64} (bounded : interval.toInt.natAbs ≤ 2147483648) :
    longestRound interval < UInt64.size := by
  unfold longestRound Span.ofMillis Span.ofSeconds Span.perSecond UInt64.size
  split <;> dsimp only <;> omega

/-! ### Which steps take time -/

section Steps

variable {made machine : Machine} {interval : Int64} {world : World} {outcome : Machine.Outcome}
  (same : SameMake made machine) (plan : made.timing.stall = StallPlan.ofInterval interval)
  (bounded : interval.toInt.natAbs ≤ 2147483648)

include same plan bounded

/-- A step of a phase that takes time moves the clock by the shortest wait or more. -/
theorem Machine.Transition.moved (range : made.activeJitter = jitterBounds interval)
    (transition : Transition machine world outcome) (takes : machine.phase.takesTime = true) :
    world.clock.now.nanos + shortestWait.nanos ≤ outcome.world.clock.now.nanos := by
  cases phase : machine.phase with
  | looping =>
    exact transition.paid phase (same.activeJitter_eq.trans range)
      (movesClock_of_longestRound_lt (longestRound_lt bounded))
  | stalling remaining =>
    cases remaining with
    | zero =>
      rw [phase] at takes
      cases takes
    | succ remaining =>
      obtain ⟨step, planned, least, most⟩ := StallPlan.exists_long_step interval
      rw [← plan, ← same.timing] at planned
      have next := StallPlan.nextSecond_le interval
      have two : (Span.ofSeconds 2).nanos = 2000000000 := rfl
      have shortest : shortestWait.nanos = 1000000 := rfl
      have size : UInt64.size = 18446744073709551616 := rfl
      have moved := transition.now_eq_of_stalling phase planned (by omega)
      omega
  | initialDelay | ceiling | crashed =>
    rw [phase] at takes
    cases takes

/-- A step that takes no time and is no crash leads to a phase that takes time. -/
theorem Machine.Transition.takesTime_of_free (transition : Transition machine world outcome)
    (free : machine.phase.takesTime = false) (running : outcome.event ≠ .crashed) :
    outcome.machine.phase.takesTime = true := by
  cases transition with
  | delay | goOn | endStall => rfl
  | idle phase | beat phase | keepSilent phase =>
    rw [phase] at free
    cases free
  | crash | rest => exact absurd rfl running
  | fallSilent =>
    -- Without a single step in its plan the end of the stall would follow at once.
    have counted := StallPlan.one_le_repeats bounded
    rw [← plan, ← same.timing] at counted
    obtain ⟨remaining, repeats⟩ := Nat.exists_eq_add_of_le' counted
    show (Phase.stalling machine.timing.stall.repeats).takesTime = true
    rw [repeats]
    rfl

end Steps

/-! ### Every second step -/

namespace Progress

/-- The steps that were added since an earlier progress: unless one of them is a crash, those that
have moved the clock are at least every second one, and after a step that has not, the next one
will. -/
structure Steady (made : Machine) (early progress : Progress) : Prop where
  same : SameMake made progress.machine
  moving : ∃ more, progress.events.toList = early.events.toList ++ more ∧
    ((∀ stamped ∈ more, stamped.event ≠ .crashed) → ∃ moving,
      early.world.clock.now.nanos + moving * shortestWait.nanos ≤
        progress.world.clock.now.nanos ∧
      more.length ≤ 2 * moving + if progress.machine.phase.takesTime then 1 else 0)

section Steady

variable {made : Machine} {interval : Int64} {early progress : Progress}

theorem Steady.refl (same : SameMake made progress.machine) : Steady made progress progress :=
  ⟨same, [], (List.append_nil _).symm, fun _ ↦ ⟨0, by omega, Nat.zero_le _⟩⟩

/-- Half of the steps that were added have moved the clock. -/
theorem Steady.le_now (steady : Steady made early progress) {more : List Stamped}
    (added : progress.events.toList = early.events.toList ++ more)
    (running : ∀ stamped ∈ more, stamped.event ≠ .crashed) :
    early.world.clock.now.nanos + more.length / 2 * shortestWait.nanos ≤
      progress.world.clock.now.nanos := by
  obtain ⟨others, appended, counted⟩ := steady.moving
  obtain rfl := List.append_cancel_left (added.symm.trans appended)
  obtain ⟨moving, moved, bound⟩ := counted running
  have half : more.length / 2 ≤ moving := by
    split at bound <;> omega
  exact (Nat.add_le_add_left (Nat.mul_le_mul_right _ half) _).trans moved

variable (plan : made.timing.stall = StallPlan.ofInterval interval)
  (bounded : interval.toInt.natAbs ≤ 2147483648)
  (range : made.activeJitter = jitterBounds interval)

include plan bounded range

/-- Every undisturbed step keeps a run steady. -/
theorem stable_steady : Stable (Steady made early) := by
  refine ⟨fun progress outcome steady transition ↦ ?_, fun _ _ _ steady ↦ ⟨steady.1, steady.2⟩⟩
  obtain ⟨same, more, appended, counted⟩ := steady
  refine ⟨same.trans transition.sameMake, more ++ [⟨outcome.world.clock, outcome.event⟩], ?_, ?_⟩
  · simp only [after, Array.toList_push, appended, List.append_assoc]
  · intro running
    obtain ⟨moving, moved, bound⟩ := counted fun stamped member ↦
      running stamped (List.mem_append_left _ member)
    have runs : outcome.event ≠ .crashed :=
      running ⟨outcome.world.clock, outcome.event⟩ (List.mem_append_right _ List.mem_cons_self)
    rw [List.length_append, List.length_singleton]
    show ∃ moving, _ ≤ outcome.world.clock.now.nanos ∧
      _ ≤ 2 * moving + if outcome.machine.phase.takesTime then 1 else 0
    cases takes : progress.machine.phase.takesTime with
    | true =>
      have paid := transition.moved same plan bounded range takes
      rw [takes, if_pos rfl] at bound
      refine ⟨moving + 1, ?_, by omega⟩
      rw [Nat.succ_mul]
      omega
    | false =>
      have next := transition.takesTime_of_free same plan bounded takes runs
      rw [takes] at bound
      rw [next, if_pos rfl]
      exact ⟨moving, moved.trans transition.now_le, Nat.add_le_add_right bound 1⟩

end Steady

end Progress

/-! ### The end of a drive without a guard -/

namespace Drive

open Progress

/-- The number of steps after which a drive with steady progress is past its horizon. -/
def mostSteps (drive : Drive) : ℕ :=
  2 * (drive.horizon.nanos ⌈/⌉ shortestWait.nanos)

/-- A run that has not crashed and has so many steps left of those that its horizon allows. -/
structure Leaves (drive : Drive) (config : Instance) (left : ℕ) (progress : Progress) : Prop where
  steady : Steady (drive.machine config) (drive.start config) progress
  running : ∀ stamped ∈ progress.events, stamped.event ≠ .crashed
  size : progress.events.size + left = drive.mostSteps

variable {drive : Drive} {config : Instance}

/-- When no step is left, the horizon has come. -/
theorem Leaves.goesOn_eq_false {progress : Progress} (leaves : Leaves drive config 0 progress) :
    drive.goesOn progress.world = false := by
  have moved := leaves.steady.le_now (List.nil_append _).symm
    fun stamped member ↦ leaves.running stamped (Array.mem_toList_iff.mp member)
  have size := leaves.size
  have positive : 0 < shortestWait.nanos := by decide
  rw [Array.length_toList] at moved
  rw [Nat.add_zero] at size
  rw [size, mostSteps, Nat.mul_div_cancel_left _ Nat.two_pos, Nat.mul_comm] at moved
  have enough := le_smul_ceilDiv (b := drive.horizon.nanos) positive
  rw [smul_eq_mul] at enough
  rw [← Bool.not_eq_true, goesOn_iff, Nat.not_lt]
  exact enough.trans ((Nat.le_add_left _ _).trans moved)

/-- With an interval up to 2^31 the guard on the number of steps plays no part, if it is not lower
than the number that the horizon allows. -/
theorem run_eq_of_mostSteps_le (bounded : config.interval.toInt.natAbs ≤ 2147483648) {guard : ℕ}
    (enough : drive.mostSteps ≤ guard) :
    Progress.run drive.goesOn ends guard (drive.start config) =
      Progress.run drive.goesOn ends drive.mostSteps (drive.start config) := by
  obtain ⟨extra, rfl⟩ := Nat.exists_eq_add_of_le enough
  refine @run_add_eq drive.goesOn ends (drive.start config) (Leaves drive config) ?_
    (fun progress ↦ Leaves.goesOn_eq_false) drive.mostSteps ⟨.refl (SameMake.refl _), ?_, ?_⟩ extra
  · intro left progress outcome leaves going transition unfinished
    refine ⟨(stable_steady rfl bounded (Machine.activeJitter_create _ _ _ _ _)).step
      progress outcome leaves.steady transition, ?_, ?_⟩
    · intro stamped member
      rcases Array.mem_push.mp member with old | rfl
      · exact leaves.running stamped old
      · exact beq_eq_false_iff_ne.mp unfinished
    · have size := leaves.size
      simp only [after, Array.size_push]
      omega
  · exact fun _ member ↦ absurd member (Array.not_mem_empty _)
  · exact Nat.zero_add _

end Drive

namespace Progress

/-- Let the interval of an instance be at most 2^31 seconds in size. On a clock that only the
machine moves, any number of consecutive steps without a crash moves the clock by at least a
millisecond for every two of them, in whatever state the first one is taken. And a drive needs no
guard on its number of steps: with any number that is not less than two for each millisecond before
the horizon it has one and the same result, which is a fault, a crash or the horizon. -/
theorem steady_progress (config : Instance)
    (bounded : config.interval.toInt.natAbs ≤ 2147483648) :
    (∀ role tap pid world early late progress last more,
      (fresh config role tap pid world).follow early = .ok progress →
      (∀ made ∈ late, made.sparesClock = true) → progress.follow late = .ok last →
      last.events.toList = progress.events.toList ++ more →
      (∀ stamped ∈ more, stamped.event ≠ .crashed) →
      progress.world.clock.now.nanos + more.length / 2 * (Span.ofMillis 1).nanos ≤
        last.world.clock.now.nanos) ∧
    ∀ drive : Drive, ∃ result,
      (∀ guard, 2 * (drive.horizon.nanos ⌈/⌉ (Span.ofMillis 1).nanos) ≤ guard →
        Progress.run drive.goesOn Drive.ends guard (drive.start config) = result) ∧
      ∀ last, result = .ok last → drive.horizon ≤ last.world.clock.now ∨
        ∃ time, last.events.back? = some ⟨time, .crashed⟩ := by
  constructor
  · intro role tap pid world early late progress last more reached spares followed added running
    have same := (Machine.lasting_sameMake _).follow (SameMake.refl _) reached
    have steady := (stable_steady rfl bounded
      (Machine.activeJitter_create config role tap pid world.clock)).follow spares
        (.refl same) followed
    exact steady.le_now added running
  · intro drive
    refine ⟨_, fun guard enough ↦ Drive.run_eq_of_mostSteps_le bounded enough, ?_⟩
    intro last ran
    have fewer := size_events_le_of_run ran
    -- With one step more the run is the same, so it has not ended for want of steps.
    rw [← Drive.run_eq_of_mostSteps_le bounded (Nat.le_succ drive.mostSteps)] at ran
    rcases run_ends ran with stopped | ⟨⟨time, event⟩, final, ended⟩ | made
    · rw [← Bool.not_eq_true, Drive.goesOn_iff] at stopped
      exact .inl (Nat.le_of_not_lt stopped)
    · cases beq_iff_eq.mp ended
      exact .inr ⟨time, final⟩
    · omega

/-- A machine that falls silent is at least 120 milliseconds on after 240 steps with an outage; and
the machine whose drive the guard cuts off would come to an end of its own after at most 1,800,000
steps. -/
theorem steady_progress_outage_hurried :
    (∃ last, (fresh ⟨2, "idler", 0, 3, 12345⟩ .noHeartbeat ⟨12345, 0⟩ 1007
        (World.ofSeed 7)).follow ((Schedule.outage 3 8).moves 240) = .ok last ∧
      last.events.size = 240 ∧ Span.ofMillis 120 ≤ last.world.clock.now) ∧
    ∃ result, ∀ guard, 1800000 ≤ guard → Progress.run Drive.hurried.goesOn Drive.ends guard
      (Drive.hurried.start ⟨1, "Process1", 0, 1, 12345⟩) = result := by
  constructor
  · obtain ⟨last, followed⟩ := exists_silent_run
    have spares := (Schedule.outage_sparesClock 3 8).moves 240
    have made : last.events.size = 240 := by
      rw [size_events_of_follow followed]
      decide +kernel
    have role : Role.noHeartbeat ≠ .crash := by decide
    have phase : Phase.initialDelay ≠ .crashed := by decide
    have uncrashed : Uncrashed last :=
      Stable.follow ⟨kept_uncrashed, fun _ _ _ runs ↦ ⟨runs.1, runs.2, runs.3⟩⟩ spares
        ⟨role, phase, fun _ member ↦ absurd member (Array.not_mem_empty _)⟩ followed
    have moved := (steady_progress ⟨2, "idler", 0, 3, 12345⟩ (by decide)).1 .noHeartbeat
      ⟨12345, 0⟩ 1007 (World.ofSeed 7) [] _ _ last last.events.toList (follow_nil _) spares followed
      rfl fun stamped member ↦ uncrashed.events stamped (Array.mem_toList_iff.mp member)
    rw [Array.length_toList, made] at moved
    exact ⟨last, followed, made, moved⟩
  · obtain ⟨result, same, -⟩ :=
      (steady_progress ⟨1, "Process1", 0, 1, 12345⟩ (by decide)).2 Drive.hurried
    refine ⟨result, fun guard enough ↦ same guard ?_⟩
    have most : 2 * (Drive.hurried.horizon.nanos ⌈/⌉ (Span.ofMillis 1).nanos) = 1800000 := by decide
    exact most.trans_le enough

end Progress

end Heartbeat
