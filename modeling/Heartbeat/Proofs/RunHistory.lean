import Heartbeat.Proofs.Delivery

/-!
# The history of a run

What the events, the datagrams and the clock of a run tell about what came before.
`Progress.Continues` relates a progress to a later one of the same run: events and datagrams are
only added, and what is added is not older. `Progress.Past` bounds the deliveries by the time,
`Progress.Opened` and `Progress.Started` fix the start of the loop, and `Progress.Uncrashed` says
that a machine that does not crash has no crash behind it. Every step keeps each of them.
-/

set_option autoImplicit false
set_option relaxedAutoImplicit false

namespace Heartbeat

namespace Progress

/-! ### Later in the same run -/

/-- The times of the datagrams in order, in nanoseconds. -/
def sentTimes (progress : Progress) : List ℕ :=
  progress.world.recorder.sent.toList.map fun datagram ↦ datagram.time.now.nanos

/-- A progress continues an earlier one: no event and no datagram is lost, and those that were added
are not older than it. -/
structure Continues (early later : Progress) : Prop where
  events : early.events.toList <+: later.events.toList
  now_le : early.world.clock.now.nanos ≤ later.world.clock.now.nanos
  sent : ∃ more, later.sentTimes = early.sentTimes ++ more ∧
    ∀ time ∈ more, early.world.clock.now.nanos ≤ time

theorem Continues.refl (progress : Progress) : Continues progress progress :=
  ⟨List.prefix_rfl, le_rfl, [], (List.append_nil _).symm, by simp⟩

theorem kept_continues (early : Progress) : Kept (Continues early) := by
  intro progress outcome continues transition
  obtain ⟨more, sent, late⟩ := continues.sent
  refine ⟨?_, Nat.le_trans continues.now_le transition.now_le, ?_⟩
  · refine continues.events.trans ?_
    simp only [after, Array.toList_push]
    exact List.prefix_append _ _
  · show ∃ more, (outcome.world.recorder.sent.toList.map fun datagram ↦ _) = _ ∧ _
    have recorded := transition.recorded
    generalize outcome.event = event at recorded
    generalize outcome.world.recorder = recorder at recorded ⊢
    cases recorded with
    | quiet | dropped => exact ⟨more, sent, late⟩
    | delivered reachable kept =>
      refine ⟨more ++ [progress.world.clock.now.nanos], ?_, ?_⟩
      · rw [← List.append_assoc, ← sent, Array.toList_push, List.map_append]
        rfl
      · intro time member
        rcases List.mem_append.mp member with old | new
        · exact late time old
        · rw [List.mem_singleton.mp new]
          exact continues.now_le

/-- Nothing was delivered later than now. -/
def Past (progress : Progress) : Prop :=
  ∀ time ∈ progress.sentTimes, time ≤ progress.world.clock.now.nanos

theorem kept_past : Kept Past := by
  intro progress outcome past transition time member
  have later := transition.now_le
  change time ∈ outcome.world.recorder.sent.toList.map _ at member
  have recorded := transition.recorded
  generalize outcome.event = event at recorded
  generalize outcome.world.recorder = recorder at recorded member
  cases recorded with
  | quiet | dropped => exact Nat.le_trans (past time member) later
  | delivered reachable kept =>
    rw [Array.toList_push, List.map_append] at member
    rcases List.mem_append.mp member with old | new
    · exact Nat.le_trans (past time old) later
    · rw [List.map_singleton, List.mem_singleton] at new
      rw [new]
      exact later

/-- The first event is the start of the loop, at the time that the machine has noted for it. -/
structure Opened (progress : Progress) : Prop where
  fresh : progress.machine.phase = .initialDelay → progress.events = #[]
  first : progress.machine.phase ≠ .initialDelay → ∃ time slept rest,
    progress.events.toList = ⟨time, .initialDelay slept⟩ :: rest ∧
      time.now = progress.machine.state.startTime

theorem kept_opened : Kept Opened := by
  intro progress outcome opened transition
  refine ⟨fun back ↦ absurd back transition.phase_ne_initialDelay, fun _ ↦ ?_⟩
  by_cases delaying : progress.machine.phase = .initialDelay
  · have none := opened.fresh delaying
    cases transition with
    | @delay later phase wait =>
      refine ⟨later.clock, progress.machine.timing.initialSleep.getD Span.zero, [], ?_, rfl⟩
      simp [after, none]
    | idle phase | beat phase | crash phase | fallSilent phase | goOn phase | endStall phase
    | keepSilent phase | rest phase => exact absurd (delaying.symm.trans phase) (by simp)
  · obtain ⟨time, slept, rest, events, start⟩ := opened.first delaying
    refine ⟨time, slept, rest ++ [⟨outcome.world.clock, outcome.event⟩], ?_, ?_⟩
    · simp only [after, Array.toList_push, events, List.cons_append]
    · exact start.trans (transition.startTime_eq delaying).symm

/-- The loop has started, at a given time. -/
structure Started (time : Span) (progress : Progress) : Prop where
  started : progress.machine.phase ≠ .initialDelay
  startTime : progress.machine.state.startTime = time

theorem kept_started (time : Span) : Kept (Started time) :=
  fun _ _ earlier transition ↦ ⟨transition.phase_ne_initialDelay,
    (transition.startTime_eq earlier.started).trans earlier.startTime⟩

/-- A machine that has another role than to crash has not crashed. -/
structure Uncrashed (progress : Progress) : Prop where
  role : progress.machine.role ≠ .crash
  phase : progress.machine.phase ≠ .crashed
  events : ∀ stamped ∈ progress.events, stamped.event ≠ .crashed

theorem kept_uncrashed : Kept Uncrashed := by
  intro progress outcome uncrashed transition
  have facts := transition.ne_crashed uncrashed.role uncrashed.phase
  refine ⟨?_, facts.1, ?_⟩
  · rw [after, transition.sameMake.role]
    exact uncrashed.role
  · intro stamped member
    rcases Array.mem_push.mp member with old | rfl
    · exact uncrashed.events stamped old
    · exact facts.2

end Progress

end Heartbeat
