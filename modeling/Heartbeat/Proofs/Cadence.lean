import Heartbeat.Proofs.ReportedWait
import Heartbeat.Proofs.RunHistory
import Heartbeat.Scenario
import Mathlib.Data.List.Chain

/-!
# The cadence of the deliveries

`Pace` says when the datagrams of a machine were delivered that never falls silent and never fails
to deliver: the first one at the start of the loop, and each other one a round after the one before.
Every step keeps it (`Progress.kept_paced`), so the gaps that a trace shows are rounds of the
interval (`Trace.gapsWithin_of_isChain`). `Rhythm` relates the number of steps to the time, for a
machine that goes on at its ceilings (`Progress.kept_rhythmic`): up to the first ceiling every step
takes a round, and from then on every other one does.
-/

set_option autoImplicit false
set_option relaxedAutoImplicit false

namespace Heartbeat

open Machine (SameMake Transition)

/-! ### Gaps -/

/-- The time between two deliveries is a round of the interval. -/
def IsGap (interval : Int64) (earlier later : ℕ) : Prop :=
  earlier + shortestRound interval ≤ later ∧ later ≤ earlier + longestRound interval

/-- The times of the deliveries, given the phase of a machine, the start of its loop and the
time. -/
inductive Pace (interval : Int64) (start now : ℕ) : Phase → List ℕ → Prop
  | fresh : Pace interval start now .initialDelay []
  | starting (time : now = start) : Pace interval start now .looping []
  | beating {phase : Phase} {times : List ℕ} {last : ℕ}
      (turning : phase = .looping ∨ phase = .ceiling ∨ phase = .crashed)
      (first : (times ++ [last]).head? = some start)
      (chain : (times ++ [last]).IsChain (IsGap interval)) (latest : IsGap interval last now) :
      Pace interval start now phase (times ++ [last])

/-- A delivery in the loop keeps the pace. -/
theorem Pace.deliver {interval : Int64} {start now later : ℕ} {phase : Phase} {times : List ℕ}
    (pace : Pace interval start now .looping times)
    (turned : phase = .looping ∨ phase = .ceiling) (gap : IsGap interval now later) :
    Pace interval start later phase (times ++ [now]) := by
  have turning : phase = .looping ∨ phase = .ceiling ∨ phase = .crashed := by
    rcases turned with looping | ceiling
    · exact .inl looping
    · exact .inr (.inl ceiling)
  cases pace with
  | starting time => exact .beating turning (by simp [time]) (by simp) gap
  | @beating _ times last _ first chain latest =>
    refine .beating turning ?_ ?_ gap
    · rw [List.head?_append, first]
      rfl
    · refine chain.append (.singleton now) ?_
      intro earlier final only same
      rw [List.getLast?_append, List.getLast?_singleton, Option.some_or] at final
      cases final
      cases same
      exact latest

/-- The pace of a machine in another phase that takes no time. -/
theorem Pace.turn {interval : Int64} {start now : ℕ} {phase : Phase} {times : List ℕ}
    (pace : Pace interval start now .ceiling times)
    (turning : phase = .looping ∨ phase = .ceiling ∨ phase = .crashed) :
    Pace interval start now phase times := by
  cases pace with
  | beating _ first chain latest => exact .beating turning first chain latest

namespace Progress

/-- A machine that never falls silent keeps its pace, as long as nothing fails. -/
structure Paced (made : Machine) (interval : Int64) (progress : Progress) : Prop where
  same : SameMake made progress.machine
  reachable : progress.world.recorder.unreachable = false
  pace : Pace interval progress.machine.state.startTime.nanos progress.world.clock.now.nanos
    progress.machine.phase progress.sentTimes

section Paced

variable {made : Machine} {interval : Int64}

/-- A reliable tap does not drop anything. -/
theorem drops_of_reliable {tap : Tap} (reliable : tap.failEvery = 0) (attempt : UInt64) :
    tap.drops attempt = false := by
  unfold Tap.drops
  rw [reliable]
  rfl

/-- An attempt through a reliable tap is a delivery, and other steps deliver nothing. -/
theorem sentTimes_after (progress : Progress) {outcome : Machine.Outcome}
    (reliable : progress.machine.tap.failEvery = 0)
    (reachable : progress.world.recorder.unreachable = false)
    (transition : Transition progress.machine progress.world outcome) :
    outcome.world.recorder.unreachable = false ∧
      (after progress.events progress.notices outcome).sentTimes =
        if outcome.event.letter = .attempt then
          progress.sentTimes ++ [progress.world.clock.now.nanos]
        else progress.sentTimes := by
  show _ ∧ (outcome.world.recorder.sent.toList.map fun datagram ↦ datagram.time.now.nanos) = _
  have recorded := transition.recorded
  generalize outcome.event = event at recorded ⊢
  generalize outcome.world.recorder = recorder at recorded ⊢
  cases recorded with
  | quiet other =>
    rw [if_neg other]
    exact ⟨reachable, rfl⟩
  | @delivered payload waitTime nextWait _ kept =>
    have attempt : (Event.heartbeatSent payload waitTime nextWait).letter = .attempt := rfl
    rw [if_pos attempt, Array.toList_push, List.map_append]
    exact ⟨reachable, rfl⟩
  | dropped lost =>
    rw [reachable, drops_of_reliable reliable] at lost
    cases lost

/-- An attempt through a reliable tap is a delivered heartbeat. -/
theorem isSent_of_reliable {machine : Machine} {world : World} {outcome : Machine.Outcome}
    (reliable : machine.tap.failEvery = 0) (reachable : world.recorder.unreachable = false)
    (transition : Transition machine world outcome) (attempt : outcome.event.letter = .attempt) :
    outcome.event.isSent = true := by
  have recorded := transition.recorded
  generalize outcome.event = event at recorded attempt
  generalize outcome.world.recorder = recorder at recorded
  cases recorded with
  | quiet other => exact absurd attempt other
  | delivered => rfl
  | dropped lost =>
    rw [reachable, drops_of_reliable reliable] at lost
    cases lost

/-- Every step keeps the pace. -/
theorem kept_paced (positive : 0 < interval.toInt) (keeps : Keeps made interval)
    (reliable : made.tap.failEvery = 0) (role : made.role ≠ .noHeartbeat)
    (small : longestRound interval < UInt64.size) : Kept (Paced made interval) := by
  intro progress outcome paced transition
  have tap : progress.machine.tap.failEvery = 0 := by rw [paced.same.tap, reliable]
  obtain ⟨still, times⟩ := progress.sentTimes_after tap paced.reachable transition
  refine ⟨paced.same.trans transition.sameMake, still, ?_⟩
  rw [times]
  have range := paced.same.activeJitter_eq.trans keeps.range
  have enabled : progress.machine.activeJitter ≠ none := by
    rw [range, Ne, Machine.jitterBounds_eq_none_iff, not_not]
    exact positive
  have pace := paced.pace
  by_cases looping : progress.machine.phase = .looping
  · have gap : IsGap interval progress.world.clock.now.nanos outcome.world.clock.now.nanos :=
      transition.now_mem_range looping range small
    have start := transition.startTime_eq (by simp [looping])
    rw [if_pos ((transition.letter_eq_attempt_iff enabled).mpr looping)]
    rw [looping] at pace
    rw [← start] at pace
    exact pace.deliver (transition.turned looping) gap
  · rw [if_neg fun attempt ↦ looping ((transition.letter_eq_attempt_iff enabled).mp attempt)]
    cases transition with
    | @delay later phase wait =>
      rw [phase] at pace
      generalize progress.sentTimes = times at pace ⊢
      cases pace with
      | fresh => exact .starting rfl
      | beating turning => simp at turning
    | idle phase | beat phase => exact absurd phase looping
    | crash phase => exact (phase ▸ pace).turn (.inr (.inr rfl))
    | goOn phase => exact (phase ▸ pace).turn (.inl rfl)
    | fallSilent phase silent => exact absurd (paced.same.role.symm.trans silent) role
    | endStall phase | keepSilent phase =>
      rw [phase] at pace
      generalize progress.sentTimes = times at pace
      cases pace with
      | beating turning => simp at turning
    | rest phase => exact pace

end Paced

end Progress

/-! ### Steps and time -/

/-- A round leads to the ceiling exactly when the window has passed. -/
theorem Machine.Transition.phase_of_looping {made machine : Machine} {interval : Int64}
    {world : World} {outcome : Machine.Outcome} (transition : Transition machine world outcome)
    (looping : machine.phase = .looping) (same : SameMake made machine)
    (keeps : Keeps made interval) : outcome.machine.phase =
      if observationWindow interval ≤
        outcome.world.clock.now.nanos - machine.state.startTime.nanos then .ceiling
      else .looping := by
  rw [← keeps.window, ← same.timing]
  exact (transition.isRound looping).phase

/-- How many steps a machine has made by a time that goes on at its ceilings, given the start of its
loop: until the window has passed every step is a round, and then every other one. -/
inductive Rhythm (interval : Int64) (start now : ℕ) : Phase → ℕ → Prop
  | fresh : Rhythm interval start now .initialDelay 0
  | opening {steps : ℕ}
      (least : start + steps * shortestRound interval ≤ now + shortestRound interval)
      (most : now + longestRound interval ≤ start + steps * longestRound interval)
      (still : now < start + observationWindow interval) :
      Rhythm interval start now .looping steps
  | ceiling {steps : ℕ} (passed : start + observationWindow interval ≤ now)
      (least : 2 * start + observationWindow interval + steps * shortestRound interval ≤
        2 * now + shortestRound interval)
      (most : 2 * now ≤
        2 * start + observationWindow interval + steps * longestRound interval) :
      Rhythm interval start now .ceiling steps
  | resumed {steps : ℕ} (passed : start + observationWindow interval ≤ now)
      (least : 2 * start + observationWindow interval + steps * shortestRound interval ≤
        2 * now + 2 * shortestRound interval)
      (most : 2 * now + longestRound interval ≤
        2 * start + observationWindow interval + steps * longestRound interval) :
      Rhythm interval start now .looping steps

namespace Rhythm

variable {interval : Int64} {start now later steps : ℕ} {phase : Phase}

/-- The loop begins with its first step. -/
theorem delay (rhythm : Rhythm interval start now .initialDelay steps) :
    Rhythm interval later later .looping (steps + 1) := by
  have window := Progress.minObservation_le_observationWindow interval
  cases rhythm with
  | fresh => refine .opening ?_ ?_ ?_ <;> omega

/-- A round keeps the rhythm, and it leads to the ceiling once the window has passed. -/
theorem round (rhythm : Rhythm interval start now .looping steps)
    (turned : phase = if observationWindow interval ≤ later - start then .ceiling else .looping)
    (shortest : now + shortestRound interval ≤ later)
    (longest : later ≤ now + longestRound interval) :
    Rhythm interval start later phase (steps + 1) := by
  have window := Progress.minObservation_le_observationWindow interval
  have shortly := Nat.add_one_mul steps (shortestRound interval)
  have longly := Nat.add_one_mul steps (longestRound interval)
  rw [turned]
  cases rhythm with
  | opening least most still =>
    split
    · refine .ceiling ?_ ?_ ?_ <;> omega
    · refine .opening ?_ ?_ ?_ <;> omega
  | resumed passed least most =>
    rw [if_pos (by omega)]
    refine .ceiling ?_ ?_ ?_ <;> omega

/-- A ceiling is a step that takes no time. -/
theorem goOn (rhythm : Rhythm interval start now .ceiling steps) :
    Rhythm interval start now .looping (steps + 1) := by
  have shortly := Nat.add_one_mul steps (shortestRound interval)
  have longly := Nat.add_one_mul steps (longestRound interval)
  cases rhythm with
  | ceiling passed least most => refine .resumed passed ?_ ?_ <;> omega

/-- The clock has come at least so far. -/
theorem least_le (rhythm : Rhythm interval start now phase steps) :
    steps * shortestRound interval ≤ now + shortestRound interval ∨
      observationWindow interval + steps * shortestRound interval ≤
        2 * now + 2 * shortestRound interval := by
  cases rhythm <;> omega

/-- The clock has come at most so far. -/
theorem le_most (rhythm : Rhythm interval start now phase steps) (started : phase ≠ .initialDelay) :
    2 * now ≤ 2 * start + observationWindow interval + steps * longestRound interval := by
  cases rhythm with
  | fresh => exact absurd rfl started
  | opening | ceiling | resumed => omega

end Rhythm

namespace Progress

/-- A machine that goes on at its ceilings keeps its rhythm. -/
structure Rhythmic (made : Machine) (interval : Int64) (progress : Progress) : Prop where
  same : SameMake made progress.machine
  rhythm : Rhythm interval progress.machine.state.startTime.nanos progress.world.clock.now.nanos
    progress.machine.phase progress.events.size

theorem kept_rhythmic {made : Machine} {interval : Int64} {name : String}
    (keeps : Keeps made interval) (role : made.role = .unrecognized name)
    (small : longestRound interval < UInt64.size) : Kept (Rhythmic made interval) := by
  intro progress outcome rhythmic transition
  refine ⟨rhythmic.same.trans transition.sameMake, ?_⟩
  have pushed : (after progress.events progress.notices outcome).events.size =
      progress.events.size + 1 := Array.size_push _
  have acts : progress.machine.role = .unrecognized name := rhythmic.same.role.trans role
  have rhythm := rhythmic.rhythm
  rw [pushed]
  by_cases looping : progress.machine.phase = .looping
  · obtain ⟨shortest, longest⟩ := transition.now_mem_range looping
      (rhythmic.same.activeJitter_eq.trans keeps.range) small
    have turned := transition.phase_of_looping looping rhythmic.same keeps
    have start := transition.startTime_eq (by simp [looping])
    show Rhythm interval outcome.machine.state.startTime.nanos _ outcome.machine.phase _
    rw [looping] at rhythm
    rw [start]
    exact rhythm.round turned shortest longest
  · cases transition with
    | delay phase =>
      rw [phase] at rhythm
      exact rhythm.delay
    | idle phase | beat phase => exact absurd phase looping
    | goOn phase =>
      rw [phase] at rhythm
      exact rhythm.goOn
    | crash phase other | fallSilent phase other =>
      rw [other] at acts
      cases acts
    | endStall phase | keepSilent phase | rest phase =>
      rw [phase] at rhythm
      generalize progress.events.size = steps at rhythm
      cases rhythm

end Progress

/-! ### Gaps in a trace -/

/-- Whatever relates the elements of a list that follow each other relates the pairs of the list
with its tail. -/
theorem rel_of_mem_zip_tail {α : Type} {relation : α → α → Prop} {elements : List α}
    (chain : elements.IsChain relation) {pair : α × α}
    (member : pair ∈ elements.zip elements.tail) :
    relation pair.1 pair.2 := by
  induction elements with
  | nil => simp at member
  | cons first rest ih =>
    cases rest with
    | nil => simp at member
    | cons second rest =>
      rw [List.isChain_cons_cons] at chain
      rw [List.tail_cons, List.zip_cons_cons] at member
      rcases List.mem_cons.mp member with rfl | later
      · exact chain.1
      · exact ih chain.2 later

/-- The gaps of a trace lie within bounds that the rounds of the interval lie within. -/
theorem Trace.gapsWithin_of_isChain {interval : Int64} {trace : Trace} {low high : ℕ}
    (chain : (trace.recorder.sent.toList.map fun datagram ↦
      datagram.time.now.nanos).IsChain (IsGap interval))
    (least : (Span.ofSeconds low).nanos ≤ shortestRound interval)
    (most : longestRound interval ≤ (Span.ofSeconds high).nanos) :
    trace.gapsWithin low high = true := by
  unfold gapsWithin gaps
  rw [List.all_eq_true]
  intro gap member
  obtain ⟨pair, listed, rfl⟩ := List.mem_map.mp member
  have spans : (trace.recorder.sent.toList.map fun datagram ↦ datagram.time.now).IsChain
      fun earlier later ↦ IsGap interval earlier.nanos later.nanos := by
    rw [List.isChain_map] at chain ⊢
    exact chain
  obtain ⟨shortest, longest⟩ := rel_of_mem_zip_tail spans listed
  rw [Bool.and_eq_true, decide_eq_true_eq, decide_eq_true_eq, Span.le_iff, Span.le_iff,
    Span.nanos_sub]
  omega

end Heartbeat
