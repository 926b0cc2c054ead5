import Heartbeat.Proofs.CrashScenarios

/-!
# The record and the events tell the same story

A trace holds two records of its run that were kept apart: the events with their times, and the
datagrams and counters of the recorder. `Trace.Faithful` says how they belong together. The attempts
among the events fail by their numbers, the delivered ones are the datagrams of the recorder in the
same order, each delivered at the time of the event before its own, and the figures of the trace are
numbers of events. How often a machine has left its ceiling is read off its phases
(`Progress.phases`), which no trace shows.

`Progress.Chronicled` and `Progress.Numbered` are what every step keeps of this,
`Progress.departures_of_run` compares the phases of a run with its events, and `Drive.faithful` is
the statement for every trace.
-/

set_option autoImplicit false
set_option relaxedAutoImplicit false

namespace Heartbeat

open Machine (SameMake Transition)
open Progress

/-! ### What events tell -/

/-- The datagram that an event tells of, if it was delivered at the given time. -/
def Event.datagram? (time : Clock) : Event → Option Datagram
  | .heartbeatSent payload _ _ => some ⟨time, payload.bytes⟩
  | _ => none

/-- The datagrams that events tell of: one for each delivered heartbeat, at the time of the event
before it. -/
def datagramsOf (events : List Stamped) : List Datagram :=
  (events.zip events.tail).filterMap fun pair ↦ pair.2.event.datagram? pair.1.time

/-- The attempts to send among events. -/
def attemptsOf (events : List Stamped) : List Event :=
  (events.map Stamped.event).filter (·.letter = .attempt)

/-- The pairs of neighbours in a list with one more element. -/
theorem zip_tail_concat {α : Type} (elements : List α) (last : α) :
    (elements ++ [last]).zip (elements ++ [last]).tail =
      elements.zip elements.tail ++ (elements.getLast?.map fun before ↦ (before, last)).toList := by
  induction elements with
  | nil => rfl
  | cons first rest ih =>
    cases rest with
    | nil => rfl
    | cons second rest =>
      rw [List.getLast?_cons_cons]
      simp only [List.cons_append, List.tail_cons, List.zip_cons_cons] at ih ⊢
      rw [ih]

/-- One more event tells of at most one more datagram, at the time of the event before it. -/
theorem datagramsOf_concat (events : List Stamped) (stamped : Stamped) :
    datagramsOf (events ++ [stamped]) = datagramsOf events ++
      (events.getLast?.bind fun before ↦ stamped.event.datagram? before.time).toList := by
  unfold datagramsOf
  rw [zip_tail_concat, List.filterMap_append]
  cases events.getLast? with
  | none => rfl
  | some before =>
    simp only [Option.map_some, Option.toList_some, Option.bind_some, List.filterMap_cons,
      List.filterMap_nil]
    cases stamped.event.datagram? before.time <;> rfl

theorem attemptsOf_concat (events : List Stamped) (stamped : Stamped) :
    attemptsOf (events ++ [stamped]) = attemptsOf events ++
      if stamped.event.letter = .attempt then [stamped.event] else [] := by
  unfold attemptsOf
  by_cases attempt : stamped.event.letter = .attempt <;> simp [attempt]

/-- The attempts of a run are the delivered heartbeats and the attempts that failed. -/
theorem Progress.length_attemptsOf (progress : Progress) :
    (attemptsOf progress.events.toList).length =
      progress.trace.count Event.isSent + progress.trace.count Event.isFailed := by
  rw [progress.count_letters]
  unfold attemptsOf letters
  rw [← List.countP_eq_length_filter, List.count, List.countP_map, List.countP_map]
  exact List.countP_congr fun stamped _ ↦ by simp

/-! ### How often a phase was left -/

/-- The phases of a run of a number of steps: the phase before each step, and the one after the
last. -/
def Progress.phases : ℕ → Progress → List Phase
  | 0, progress => [progress.machine.phase]
  | count + 1, progress => progress.machine.phase ::
    match progress.move .step with
    | .ok next => phases count next
    | .error _ => []

/-- How often a phase was left among phases that follow each other. -/
def departures (phase : Phase) (phases : List Phase) : ℕ :=
  (phases.zip phases.tail).countP fun pair ↦ pair.1 = phase ∧ pair.2 ≠ phase

theorem departures_cons_cons (phase first second : Phase) (rest : List Phase) :
    departures phase (first :: second :: rest) =
      departures phase (second :: rest) + if first = phase ∧ second ≠ phase then 1 else 0 := by
  unfold departures
  rw [List.tail_cons, List.zip_cons_cons, List.countP_cons]
  simp

namespace Progress

/-- The phases of a run begin with the phase of its start. -/
theorem exists_phases_eq_cons (count : ℕ) (progress : Progress) :
    ∃ rest, progress.phases count = progress.machine.phase :: rest := by
  cases count <;> exact ⟨_, rfl⟩

theorem phases_succ {progress : Progress} {outcome : Machine.Outcome} (count : ℕ)
    (transition : Transition progress.machine progress.world outcome) :
    progress.phases (count + 1) = progress.machine.phase ::
      (after progress.events progress.notices outcome).phases count := by
  rw [phases, move_step_eq_ok_iff.mpr ⟨outcome, transition, rfl⟩]

/-- One more step at the beginning of a run leaves a phase if the step does. -/
theorem departures_phases_succ {progress : Progress} {outcome : Machine.Outcome} (phase : Phase)
    (count : ℕ) (transition : Transition progress.machine progress.world outcome) :
    departures phase (progress.phases (count + 1)) =
      departures phase ((after progress.events progress.notices outcome).phases count) +
        if progress.machine.phase = phase ∧ outcome.machine.phase ≠ phase then 1 else 0 := by
  rw [phases_succ count transition]
  obtain ⟨rest, begun⟩ := exists_phases_eq_cons count
    (after progress.events progress.notices outcome)
  rw [begun]
  exact departures_cons_cons _ _ _ _

end Progress

/-- A step of a machine that has not crashed leaves the ceiling exactly when its event tells of the
ceiling or of a crash. -/
theorem Machine.Transition.leaves_ceiling_iff {machine : Machine} {world : World}
    {outcome : Machine.Outcome} (transition : Transition machine world outcome)
    (running : machine.phase ≠ .crashed) :
    (machine.phase = .ceiling ∧ outcome.machine.phase ≠ .ceiling) ↔
      (outcome.event.isCeiling = true ∨ outcome.event = .crashed) := by
  cases transition with
  | beat phase enabled wait =>
    simp only [phase, reduceCtorEq, false_and, false_iff, not_or]
    unfold Attempt.event
    split <;> simp [Event.isCeiling]
  | crash phase | fallSilent phase | goOn phase => simp [phase, Event.isCeiling]
  | delay phase | idle phase | endStall phase | keepSilent phase => simp [phase, Event.isCeiling]
  | rest phase => exact absurd phase running

/-- A machine that has not crashed is running after every step that is no crash. -/
theorem Machine.Transition.running {machine : Machine} {world : World}
    {outcome : Machine.Outcome} (transition : Transition machine world outcome)
    (running : machine.phase ≠ .crashed) (uncrashed : outcome.event ≠ .crashed) :
    outcome.machine.phase ≠ .crashed := by
  cases transition with
  | idle phase | beat phase =>
    simp only [checkCeiling]
    split
    · simp
    · exact running
  | crash | rest => exact absurd rfl uncrashed
  | delay | fallSilent | goOn | endStall | keepSilent => simp

/-- In a run that ends with a crash the ceiling is left as often as an event tells of it, and once
more if there was a crash. -/
theorem Progress.departures_of_run {goesOn : World → Bool} {fuel : ℕ} {first last : Progress}
    (ran : run goesOn Drive.ends fuel first = .ok last)
    (running : first.machine.phase ≠ .crashed) :
    ∃ more, last.events.toList = first.events.toList ++ more ∧
      (first.phases more.length).length = more.length + 1 ∧
      departures .ceiling (first.phases more.length) =
        (more.countP fun stamped ↦ stamped.event.isCeiling) +
          (more.find? fun stamped ↦ stamped.event == .crashed).isSome.toNat := by
  induction fuel generalizing first with
  | zero =>
    cases ran
    exact ⟨[], (List.append_nil _).symm, rfl, rfl⟩
  | succ fuel ih =>
    cases going : goesOn first.world with
    | false =>
      rw [run_of_stopped going] at ran
      cases ran
      exact ⟨[], (List.append_nil _).symm, rfl, rfl⟩
    | true =>
      obtain ⟨outcome, transition, step⟩ := exists_of_run_succ ran going
      have pushed : (after first.events first.notices outcome).events.toList =
          first.events.toList ++ [⟨outcome.world.clock, outcome.event⟩] := Array.toList_push
      have leaves := transition.leaves_ceiling_iff running
      rcases step with ⟨ended, rfl⟩ | ⟨unfinished, rest⟩
      · have crashed : outcome.event = .crashed := beq_iff_eq.mp ended
        refine ⟨_, pushed, by rw [List.length_singleton, phases_succ _ transition]; rfl, ?_⟩
        rw [List.length_singleton, departures_phases_succ _ _ transition,
          if_pos (leaves.mpr (.inr crashed)), crashed]
        rfl
      · have uncrashed : outcome.event ≠ .crashed := beq_eq_false_iff_ne.mp unfinished
        obtain ⟨more, events, length, departed⟩ :=
          ih rest (transition.running running uncrashed)
        refine ⟨⟨outcome.world.clock, outcome.event⟩ :: more, ?_, ?_, ?_⟩
        · rw [events, pushed, List.append_assoc, List.singleton_append]
        · rw [List.length_cons, phases_succ _ transition, List.length_cons, length]
        · rw [List.length_cons, departures_phases_succ _ _ transition, departed,
            List.countP_cons, List.find?_cons_of_neg (by simpa using uncrashed)]
          simp only [leaves, uncrashed, or_false]
          omega

/-! ### What every step keeps -/

/-- A heartbeat that is delivered carries the payload of its machine. -/
theorem Machine.Transition.payload_eq {machine : Machine} {world : World}
    {outcome : Machine.Outcome} (transition : Transition machine world outcome) {payload : Payload}
    {waitTime nextWait : ℕ} (sent : outcome.event = .heartbeatSent payload waitTime nextWait) :
    payload = machine.payload := by
  cases transition with
  | @beat low high later phase enabled wait =>
    unfold Attempt.event at sent
    dsimp only at sent
    generalize (machine.attempt world low high).result = result at sent
    cases result with
    | ok count =>
      cases sent
      rfl
    | error error => cases sent
  | delay | idle | crash | fallSilent | goOn | endStall | keepSilent | rest => cases sent

namespace Progress

/-- The recorder holds the datagrams that the events tell of, and the last event has the time of
the clock. -/
structure Chronicled (progress : Progress) : Prop where
  stamp : progress.machine.phase ≠ .initialDelay →
    ∃ event, progress.events.toList.getLast? = some ⟨progress.world.clock, event⟩
  sent : progress.world.recorder.sent.toList = datagramsOf progress.events.toList
  count : progress.world.recorder.sent.size =
    progress.events.countP fun stamped ↦ stamped.event.isSent

theorem kept_chronicled : Kept Chronicled := by
  intro progress outcome chronicled transition
  have recorded := transition.recorded
  have pushed : (after progress.events progress.notices outcome).events =
      progress.events.push ⟨outcome.world.clock, outcome.event⟩ := rfl
  refine ⟨fun _ ↦ ⟨outcome.event, ?_⟩, ?_, ?_⟩
  · rw [pushed, Array.toList_push, List.getLast?_concat]
    rfl
  · show outcome.world.recorder.sent.toList = _
    rw [pushed, Array.toList_push, datagramsOf_concat, ← chronicled.sent]
    have looping := transition.looping_of_attempt
    have carried {payload : Payload} {waitTime nextWait : ℕ} :
        outcome.event = .heartbeatSent payload waitTime nextWait →
          payload = progress.machine.payload :=
      transition.payload_eq
    generalize outcome.event = event at recorded looping carried ⊢
    generalize outcome.world.recorder = recorder at recorded ⊢
    cases recorded with
    | quiet other =>
      have untold (time : Clock) : event.datagram? time = none := by
        cases event <;> simp_all [Event.letter, Event.datagram?]
      simp [untold]
    | delivered =>
      obtain ⟨before, stamped⟩ := chronicled.stamp (by simp [looping rfl])
      rw [Array.toList_push, stamped, Option.bind_some, carried rfl]
      rfl
    | dropped => simp [Event.datagram?]
  · show outcome.world.recorder.sent.size = _
    rw [pushed, Array.countP_push, ← chronicled.count]
    generalize outcome.event = event at recorded ⊢
    generalize outcome.world.recorder = recorder at recorded ⊢
    cases recorded with
    | quiet other =>
      have unsent : event.isSent = false := by cases event <;> simp_all [Event.letter, Event.isSent]
      rw [unsent]
      rfl
    | delivered => exact Array.size_push _
    | dropped => rfl

/-- The attempts among the events fail by their numbers. -/
structure Numbered (tap : Tap) (progress : Progress) : Prop where
  reachable : Reachable tap progress
  failed : progress.events.size < UInt64.size →
    ∀ event number, (event, number) ∈ (attemptsOf progress.events.toList).zipIdx 1 →
      (event.isFailed = true ↔ tap.failEvery.toNat ∣ number)

theorem kept_numbered (tap : Tap) : Kept (Numbered tap) := by
  intro progress outcome numbered transition
  refine ⟨kept_reachable tap progress outcome numbered.reachable transition, ?_⟩
  intro short event number member
  have size : (after progress.events progress.notices outcome).events.size =
      progress.events.size + 1 := Array.size_push _
  have room : progress.events.size + 1 < UInt64.size := size ▸ short
  have accounted := numbered.reachable.accounted (by omega)
  -- The attempts among the events are as many as the recorder has counted.
  have length : (attemptsOf progress.events.toList).length =
      progress.world.recorder.attempts.toNat := by
    rw [progress.length_attemptsOf, ← accounted.made]
    rfl
  have attempts : (progress.world.recorder.attempts + 1).toNat =
      progress.world.recorder.attempts.toNat + 1 := by
    have few := accounted.few
    rw [UInt64.toNat_add]
    exact Nat.mod_eq_of_lt (Nat.lt_of_le_of_lt (Nat.succ_le_succ few) room)
  have recorded := transition.recorded
  rw [numbered.reachable.tap_eq] at recorded
  have events : (after progress.events progress.notices outcome).events.toList =
      progress.events.toList ++ [⟨outcome.world.clock, outcome.event⟩] := Array.toList_push
  rw [events, attemptsOf_concat, List.zipIdx_append] at member
  rcases List.mem_append.mp member with old | new
  · exact numbered.failed (by omega) event number old
  · dsimp only at new
    have reachable := numbered.reachable.reachable
    generalize outcome.event = made at recorded new
    generalize outcome.world.recorder = recorder at recorded
    cases recorded with
    | quiet other =>
      rw [if_neg other] at new
      cases new
    | @delivered payload waitTime nextWait _ kept =>
      have attempt : (Event.heartbeatSent payload waitTime nextWait).letter = .attempt := rfl
      rw [if_pos attempt, List.zipIdx_singleton, List.mem_singleton, Prod.mk.injEq] at new
      obtain ⟨rfl, rfl⟩ := new
      rw [length, Nat.add_comm, ← attempts, ← Tap.drops_iff (by omega), kept]
      rfl
    | @dropped error nextWait lost =>
      have attempt : (Event.sendFailed error nextWait).letter = .attempt := rfl
      rw [if_pos attempt, List.zipIdx_singleton, List.mem_singleton, Prod.mk.injEq] at new
      obtain ⟨rfl, rfl⟩ := new
      rw [reachable, Bool.false_or] at lost
      rw [length, Nat.add_comm, ← attempts, ← Tap.drops_iff (by omega), lost]
      rfl

end Progress

/-! ### Every trace -/

/-- The record and the events of a trace tell the same story. The phases are those of its run. -/
structure Trace.Faithful (trace : Trace) (failEvery : UInt64) (phases : List Phase) : Prop where
  failed : ∀ event number, (event, number) ∈ (attemptsOf trace.events.toList).zipIdx 1 →
    (event.isFailed = true ↔ 0 < failEvery ∧ failEvery.toNat ∣ number)
  sent : trace.recorder.sent.toList = datagramsOf trace.events.toList
  readable : ∀ datagram ∈ trace.recorder.sent, readPayload? datagram.bytes = some trace.pid
  heartbeatsSent : trace.metrics.heartbeatsSent = trace.count Event.isSent
  sendFailures : trace.metrics.sendFailures = trace.count Event.isFailed
  stallIterations : trace.metrics.stallIterations = trace.count Event.isStalled
  length : phases.length = trace.events.size + 1
  ceilings : trace.metrics.ceilingHits + trace.metrics.crashedAt.isSome.toNat =
    departures .ceiling phases

namespace Drive

variable {drive : Drive} {driven : Driven} {trace : Trace} {config : Instance} {last : Progress}

theorem chronicled (ran : drive.progress config = .ok last) : Chronicled last :=
  holds_of_kept kept_chronicled ⟨fun started ↦ absurd rfl started, rfl, rfl⟩ ran

theorem numbered (ran : drive.progress config = .ok last) :
    Numbered ⟨config.port, drive.failEvery⟩ last :=
  holds_of_kept (kept_numbered _)
    ⟨reachable_start drive config, fun _ _ _ member ↦ absurd member List.not_mem_nil⟩ ran

/-- A run has too few steps for the counters to overflow. -/
theorem size_events_lt (ran : drive.progress config = .ok last) :
    last.events.size < UInt64.size :=
  Nat.lt_of_le_of_lt (size_events_le ran) (by decide)

theorem faithful_of_progress (ran : drive.progress config = .ok last) :
    last.trace.Faithful drive.failEvery ((drive.start config).phases last.events.size) := by
  have short := size_events_lt ran
  have chronicled := chronicled ran
  have carries := carries ran
  have accounted := (reachable ran).accounted short
  obtain ⟨more, events, length, departed⟩ :=
    departures_of_run (progress_eq_ok_iff.mp ran) (by simp [start, fresh, Progress.start,
      Machine.create])
  have same : more = last.events.toList := events.symm
  rw [same, Array.length_toList] at length departed
  constructor
  case failed =>
    intro event number member
    have counted : 1 ≤ number := List.le_snd_of_mem_zipIdx member
    rw [(numbered ran).failed short event number member, iff_and_self]
    intro divides
    rw [UInt64.lt_iff_toNat_lt]
    exact Nat.pos_of_dvd_of_pos divides counted
  case sent => exact chronicled.sent
  case readable =>
    intro datagram member
    rw [carries.bytes datagram member, readPayload?_bytes]
    exact congrArg some carries.same.pid.symm
  case heartbeatsSent => exact chronicled.count
  case sendFailures => exact accounted.failures.trans accounted.failed.symm
  case stallIterations => rfl
  case length => exact length
  case ceilings =>
    rw [departed, Array.countP_toList, Array.find?_toList]
    unfold Trace.metrics Trace.crashedAt Trace.timeOf?
    rw [Option.isSome_map]
    rfl

/-- The record and the events of every trace tell the same story. -/
theorem faithful (ran : drive.run = .ok driven) (observed : driven.trace = .ok trace) :
    ∃ config, resolution drive.settings drive.index = .ok (.ok config) ∧
      trace.Faithful drive.failEvery ((drive.start config).phases trace.events.size) := by
  obtain ⟨config, last, resolved, progressed, -, rfl⟩ := exists_progress_of_run ran observed
  exact ⟨config, resolved, faithful_of_progress progressed⟩

/-- The run of a lossy transport that ends with a crash. -/
theorem faithful_lossyTransport : ∃ driven trace config,
    (Scenario.lossyTransport.drive 7 (Span.ofSeconds 300)).run = .ok driven ∧
      driven.trace = .ok trace ∧ trace.crashedAt.isSome = true ∧
      resolution Scenario.lossyTransport.settings 1 = .ok (.ok config) ∧
      trace.Faithful 3 (((Scenario.lossyTransport.drive 7 (Span.ofSeconds 300)).start
        config).phases trace.events.size) := by
  obtain ⟨count, last, -, -, crashed⟩ :=
    (Scenario.lossyTransport.drive 7 (Span.ofSeconds 300)).exists_crash
      ⟨1, "Process1", 0, 10, 12345⟩ rfl (by decide +kernel) (by decide +kernel) (by decide +kernel)
  obtain ⟨notices, run⟩ := @exists_run_eq (Scenario.lossyTransport.drive 7 (Span.ofSeconds 300)) _
    (Scenario.resolution_eq .lossyTransport)
  have ran := run.trans (map_eq_ok_iff.mpr ⟨last, crashed.ran, rfl⟩)
  obtain ⟨config, resolved, told⟩ := faithful ran rfl
  exact ⟨_, _, config, ran, rfl, by rw [crashed.crashedAt]; rfl, resolved, told⟩

end Drive

end Heartbeat
