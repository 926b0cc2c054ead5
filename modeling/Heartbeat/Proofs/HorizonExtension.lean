import Heartbeat.Proofs.FaithfulRecord

/-!
# Runs with a later horizon

A drive ends at its horizon, with a crash, or at the guard on its steps, and it looks at the clock
before each step and at nothing else. A run with a later horizon therefore does all that the run
with the earlier one did, and then perhaps more: `Progress.exists_run_of_run` finds the shorter run
inside the longer one, and `Drive.prefix_of_le` says that its events and its datagrams are the first
ones of the longer run.

`Trace.Orderly` is what the horizon makes of a single trace. Times do not decrease, so no gap
between deliveries is cut off; all events but the last are stamped before the horizon, because a
step is made only before it; and a crash is the last event.
-/

set_option autoImplicit false
set_option relaxedAutoImplicit false

namespace Heartbeat

open Progress

/-! ### The shorter run inside the longer one -/

namespace Progress

/-- A run goes on from the end of any run that stops earlier. -/
theorem exists_run_of_run {goesOn later : World → Bool} {ends : Event → Bool}
    (implied : ∀ world, goesOn world = true → later world = true) {fuel : ℕ} {first last : Progress}
    (ran : first.run later ends fuel = .ok last) :
    ∃ middle, first.run goesOn ends fuel = .ok middle ∧ middle.Continues last := by
  induction fuel generalizing first with
  | zero => exact ⟨last, ran, .refl last⟩
  | succ fuel ih =>
    cases going : goesOn first.world with
    | false =>
      exact ⟨first, run_of_stopped going _, (kept_continues first).run (.refl first) ran⟩
    | true =>
      obtain ⟨outcome, transition, step⟩ := exists_of_run_succ ran (implied _ going)
      rw [run_succ going transition]
      rcases step with ⟨ended, rfl⟩ | ⟨unfinished, rest⟩
      · rw [if_pos ended]
        exact ⟨_, rfl, .refl _⟩
      · rw [unfinished]
        exact ih rest

/-- The first events of a run tell of its first datagrams. -/
theorem datagramsOf_prefix {first events : List Stamped} (begun : first <+: events) :
    datagramsOf first <+: datagramsOf events := by
  obtain ⟨more, rfl⟩ := begun
  induction more using List.reverseRecOn with
  | nil => rw [List.append_nil]
  | append_singleton more stamped ih =>
    rw [← List.append_assoc, datagramsOf_concat]
    exact ih.trans (List.prefix_append _ _)

/-! ### Times in order -/

/-- The times of the events and of the datagrams do not decrease, and none of them is later than
now. -/
structure Timely (progress : Progress) : Prop where
  events : progress.events.toList.Pairwise fun first second ↦ first.time.now ≤ second.time.now
  stamped : ∀ stamped ∈ progress.events.toList, stamped.time.now ≤ progress.world.clock.now
  sent : progress.sentTimes.Pairwise (· ≤ ·)
  past : Past progress

/-- A list in order stays in order with one element more that comes before no other. -/
theorem pairwise_concat {α : Type} {before : α → α → Prop} {elements : List α} {last : α}
    (ordered : elements.Pairwise before) (least : ∀ element ∈ elements, before element last) :
    (elements ++ [last]).Pairwise before := by
  refine List.pairwise_append.mpr ⟨ordered, List.pairwise_singleton before last, ?_⟩
  intro element member other final
  rw [List.mem_singleton.mp final]
  exact least element member

theorem kept_timely : Kept Timely := by
  intro progress outcome timely transition
  have stamped : ∀ stamped ∈ progress.events.toList, stamped.time.now ≤ outcome.world.clock.now :=
    fun stamped member ↦ Nat.le_trans (timely.stamped stamped member) transition.now_le
  have events : (after progress.events progress.notices outcome).events.toList =
      progress.events.toList ++ [⟨outcome.world.clock, outcome.event⟩] := Array.toList_push
  constructor
  case events =>
    rw [events]
    exact pairwise_concat timely.events stamped
  case stamped =>
    intro added member
    rw [events] at member
    rcases List.mem_append.mp member with old | new
    · exact stamped added old
    · rw [List.mem_singleton.mp new]
      exact Nat.le_refl _
  case sent =>
    show (outcome.world.recorder.sent.toList.map _).Pairwise _
    have recorded := transition.recorded
    generalize outcome.event = event at recorded
    generalize outcome.world.recorder = recorder at recorded ⊢
    cases recorded with
    | quiet | dropped => exact timely.sent
    | delivered reachable kept =>
      rw [Array.toList_push, List.map_append]
      exact pairwise_concat timely.sent timely.past
  case past => exact kept_past progress outcome timely.past transition

theorem Timely.datagrams {progress : Progress} (timely : Timely progress) :
    progress.world.recorder.sent.toList.Pairwise
      fun first second ↦ first.time.now ≤ second.time.now := by
  have sent := timely.sent
  unfold sentTimes at sent
  rw [List.pairwise_map] at sent
  exact sent

end Progress

/-! ### One trace -/

/-- The times in a trace do not decrease, and the gaps are the times between deliveries that follow
each other. All events but the last are stamped before the horizon, and a crash, if there is one,
is the last event. -/
structure Trace.Orderly (horizon : Span) (trace : Trace) : Prop where
  events : trace.events.toList.Pairwise fun first second ↦ first.time.now ≤ second.time.now
  sent : trace.recorder.sent.toList.Pairwise fun first second ↦ first.time.now ≤ second.time.now
  gaps : ∀ (index : ℕ) (first second : Datagram), trace.recorder.sent[index]? = some first →
    trace.recorder.sent[index + 1]? = some second →
      ∃ gap, trace.gaps[index]? = some gap ∧ first.time.now + gap = second.time.now
  early : ∀ stamped ∈ trace.events.toList.dropLast, stamped.time.now < horizon
  running : ∀ stamped ∈ trace.events.toList.dropLast, stamped.event ≠ .crashed
  crashes : trace.count (· == .crashed) ≤ 1

namespace Drive

variable {drive : Drive} {config : Instance} {first last : Progress}

/-- A run makes a step only before its horizon and not after a crash. -/
theorem early_of_run {fuel : ℕ} (ran : first.run drive.goesOn ends fuel = .ok last)
    (timely : Timely first)
    (running : ∀ stamped ∈ first.events.toList, stamped.event ≠ .crashed)
    (early : ∀ stamped ∈ first.events.toList.dropLast, stamped.time.now < drive.horizon) :
    ∀ stamped ∈ last.events.toList.dropLast,
      stamped.time.now < drive.horizon ∧ stamped.event ≠ .crashed := by
  induction fuel generalizing first with
  | zero =>
    cases ran
    exact fun stamped member ↦
      ⟨early stamped member, running stamped (List.mem_of_mem_dropLast member)⟩
  | succ fuel ih =>
    cases going : drive.goesOn first.world with
    | false =>
      rw [run_of_stopped going] at ran
      cases ran
      exact fun stamped member ↦
        ⟨early stamped member, running stamped (List.mem_of_mem_dropLast member)⟩
    | true =>
      obtain ⟨outcome, transition, step⟩ := exists_of_run_succ ran going
      have events : (after first.events first.notices outcome).events.toList =
          first.events.toList ++ [⟨outcome.world.clock, outcome.event⟩] := Array.toList_push
      have before : ∀ stamped ∈ first.events.toList, stamped.time.now < drive.horizon := by
        intro stamped member
        exact Nat.lt_of_le_of_lt (timely.stamped stamped member) (goesOn_iff.mp going)
      rcases step with ⟨ended, rfl⟩ | ⟨unfinished, rest⟩
      · rw [events, List.dropLast_concat]
        exact fun stamped member ↦ ⟨before stamped member, running stamped member⟩
      · refine ih rest (kept_timely first outcome timely transition) ?_ ?_
        · rw [events]
          intro stamped member
          rcases List.mem_append.mp member with old | new
          · exact running stamped old
          · rw [List.mem_singleton.mp new]
            exact beq_eq_false_iff_ne.mp unfinished
        · rw [events, List.dropLast_concat]
          exact before

theorem timely_start (drive : Drive) (config : Instance) : Timely (drive.start config) :=
  ⟨.nil, fun _ member ↦ absurd member List.not_mem_nil, .nil, past_start drive config⟩

/-- The gaps of a timely run are the times between its deliveries: none of them is cut off. -/
theorem gap_of_timely (timely : Timely last) {index : ℕ} {first second : Datagram}
    (before : last.trace.recorder.sent[index]? = some first)
    (next : last.trace.recorder.sent[index + 1]? = some second) :
    ∃ gap, last.trace.gaps[index]? = some gap ∧ first.time.now + gap = second.time.now := by
  rw [← Array.getElem?_toList] at before next
  have ordered : first.time.now ≤ second.time.now := by
    have sent := timely.datagrams
    obtain ⟨inside, rfl⟩ := List.getElem?_eq_some_iff.mp before
    obtain ⟨further, rfl⟩ := List.getElem?_eq_some_iff.mp next
    exact List.pairwise_iff_getElem.mp sent index (index + 1) inside further (Nat.lt_succ_self _)
  refine ⟨second.time.now - first.time.now, ?_, ?_⟩
  · unfold Trace.gaps
    simp [List.getElem?_zip_eq_some, before, next]
  · exact congrArg Span.mk (Nat.add_sub_cancel' ordered)

theorem orderly (ran : drive.progress config = .ok last) :
    last.trace.Orderly drive.horizon := by
  have timely : Timely last := holds_of_kept kept_timely (timely_start drive config) ran
  have early := early_of_run (progress_eq_ok_iff.mp ran) (timely_start drive config)
    (fun _ member ↦ absurd member List.not_mem_nil) (fun _ member ↦ absurd member List.not_mem_nil)
  constructor
  case events => exact timely.events
  case sent => exact timely.datagrams
  case gaps => exact fun _ _ _ before next ↦ gap_of_timely timely before next
  case early => exact fun stamped member ↦ (early stamped member).1
  case running => exact fun stamped member ↦ (early stamped member).2
  case crashes =>
    show Array.countP _ last.events ≤ 1
    rw [← Array.countP_toList]
    rcases List.eq_nil_or_concat' last.events.toList with empty | ⟨before, final, events⟩
    · rw [empty]
      exact Nat.zero_le _
    · rw [events, List.dropLast_concat] at early
      have running : before.countP (fun stamped ↦ stamped.event == .crashed) = 0 :=
        List.countP_eq_zero.mpr fun stamped member ↦ by simpa using (early stamped member).2
      rw [events, List.countP_append, running, Nat.zero_add]
      exact List.countP_le_length

/-- The same run with another horizon. -/
def upTo (drive : Drive) (horizon : Span) : Drive :=
  { drive with horizon := horizon }

/-- The run with the earlier of two horizons has an end if the other one has, and the other one goes
on from there. -/
theorem exists_progress_of_le {early late : Span} (order : early ≤ late)
    (ran : (drive.upTo late).progress config = .ok last) :
    ∃ middle, (drive.upTo early).progress config = .ok middle ∧ middle.Continues last := by
  have implied : ∀ world, (drive.upTo early).goesOn world = true →
      (drive.upTo late).goesOn world = true :=
    fun _ going ↦ goesOn_iff.mpr (Nat.lt_of_lt_of_le (goesOn_iff.mp going) order)
  obtain ⟨middle, ended, continues⟩ := exists_run_of_run implied (progress_eq_ok_iff.mp ran)
  exact ⟨middle, progress_eq_ok_iff.mpr ended, continues⟩

/-- Of two runs that differ in the horizon, the run with the earlier one has a trace if the other
one has. Its events are the first events of the other run, its datagrams the first datagrams, and
both traces are orderly. -/
theorem prefix_of_le (drive : Drive) {early late : Span} (order : early ≤ late) {driven : Driven}
    {trace : Trace} (ran : (drive.upTo late).run = .ok driven)
    (observed : driven.trace = .ok trace) :
    ∃ sooner first, (drive.upTo early).run = .ok sooner ∧ sooner.trace = .ok first ∧
      first.events.toList <+: trace.events.toList ∧
      first.recorder.sent.toList <+: trace.recorder.sent.toList ∧
      first.Orderly early ∧ trace.Orderly late := by
  obtain ⟨config, last, resolved, progressed, -, rfl⟩ := exists_progress_of_run ran observed
  obtain ⟨middle, ended, continues⟩ := exists_progress_of_le order progressed
  obtain ⟨notices, run⟩ := @exists_run_eq (drive.upTo early) _ resolved
  refine ⟨_, middle.trace, run.trans (map_eq_ok_iff.mpr ⟨middle, ended, rfl⟩), rfl,
    continues.events, ?_, orderly ended, orderly progressed⟩
  show middle.world.recorder.sent.toList <+: last.world.recorder.sent.toList
  rw [(chronicled ended).sent, (chronicled progressed).sent]
  exact datagramsOf_prefix continues.events

/-- The scenario of a crash, up to a horizon before the crash and up to one after it. -/
theorem prefix_of_le_crashCeiling : Span.ofSeconds 100 ≤ Span.ofSeconds 300 ∧
    ∃ driven trace sooner first,
      ((Scenario.crashCeiling.drive 7 Span.zero).upTo (Span.ofSeconds 300)).run = .ok driven ∧
      driven.trace = .ok trace ∧ trace.crashedAt.isSome = true ∧
      ((Scenario.crashCeiling.drive 7 Span.zero).upTo (Span.ofSeconds 100)).run = .ok sooner ∧
      sooner.trace = .ok first ∧ first.events.toList <+: trace.events.toList ∧
      first.recorder.sent.toList <+: trace.recorder.sent.toList ∧
      first.Orderly (Span.ofSeconds 100) ∧ trace.Orderly (Span.ofSeconds 300) := by
  have order : Span.ofSeconds 100 ≤ Span.ofSeconds 300 := by decide
  obtain ⟨count, last, -, -, crashed⟩ :=
    ((Scenario.crashCeiling.drive 7 Span.zero).upTo (Span.ofSeconds 300)).exists_crash
      ⟨1, "worker", 2, 30, 12345⟩ rfl (by decide +kernel) (by decide +kernel) (by decide +kernel)
  obtain ⟨notices, run⟩ :=
    @exists_run_eq ((Scenario.crashCeiling.drive 7 Span.zero).upTo (Span.ofSeconds 300)) _
      (Scenario.resolution_eq .crashCeiling)
  have ran := run.trans (map_eq_ok_iff.mpr ⟨last, crashed.ran, rfl⟩)
  obtain ⟨sooner, first, shorter, told, prefixes⟩ :=
    prefix_of_le (Scenario.crashCeiling.drive 7 Span.zero) order ran rfl
  exact ⟨order, _, _, sooner, first, ran, rfl, by rw [crashed.crashedAt]; rfl, shorter, told,
    prefixes⟩

end Drive

end Heartbeat
