import Heartbeat.Proofs.DrivenRun
import Heartbeat.Proofs.PayloadText

/-!
# What is found in a trace

The functions that look into a trace are related to what is known of the run: the start of the loop
(`Progress.Opened.loopStartedAt_eq`), the crash (`Progress.Uncrashed.isNone_crashedAt`,
`Trace.crashedAt_of_push`), the deliveries (`Progress.Paced.exists_beats`), the sender of the
datagrams (`Progress.Carries.carriesPid`) and the stall after the first ceiling
(`Trace.stallWindow?_eq`, and the functions of `StallWindow`).
-/

set_option autoImplicit false
set_option relaxedAutoImplicit false

namespace Heartbeat

open Machine (SameMake Transition)

/-! ### Events by kind -/

namespace Trace

variable {trace : Trace}

/-- The time of a crash is the time of the first event that is one. -/
theorem crashedAt_of_push {events : Array Stamped} {time : Clock}
    (pushed : trace.events = events.push ⟨time, .crashed⟩)
    (running : ∀ stamped ∈ events, stamped.event ≠ .crashed) :
    trace.crashedAt = some time.now := by
  have before : (events.find? fun stamped ↦ stamped.event == Event.crashed) = none := by
    rw [Array.find?_eq_none]
    intro stamped member
    rw [beq_iff_eq]
    exact running stamped member
  unfold crashedAt timeOf?
  rw [pushed, Array.find?_push, before]
  rfl

/-- An event of a kind is counted. -/
theorem count_pos {kind : Event → Bool} {stamped : Stamped}
    (member : stamped ∈ trace.events.toList) (found : kind stamped.event = true) :
    0 < trace.count kind := by
  unfold count
  rw [Array.countP_pos_iff]
  exact ⟨stamped, Array.mem_toList_iff.mp member, found⟩

end Trace

namespace Progress

/-- A run without a crash shows no time of a crash. -/
theorem Uncrashed.isNone_crashedAt {progress : Progress} (uncrashed : Uncrashed progress) :
    progress.trace.crashedAt.isNone = true := by
  unfold Trace.crashedAt Trace.timeOf?
  rw [Option.isNone_iff_eq_none, Option.map_eq_none_iff, Array.find?_eq_none]
  intro stamped member
  rw [beq_iff_eq]
  exact uncrashed.events stamped member

/-- The start of the loop is found at the time that the machine has noted. -/
theorem Opened.loopStartedAt_eq {time : Span} {progress : Progress} (opened : Opened progress)
    (started : Started time progress) : progress.trace.loopStartedAt = some time := by
  obtain ⟨delayed, slept, rest, events, start⟩ := opened.first started.started
  unfold Trace.loopStartedAt Trace.timeOf?
  rw [← Array.find?_toList]
  show Option.map _ (progress.events.toList.find? _) = _
  rw [events, List.find?_cons_of_pos rfl, ← started.startTime, ← start]
  rfl

/-! ### Datagrams -/

/-- Every datagram is read as the process id of the machine. -/
theorem Carries.carriesPid {made : Machine} {progress : Progress}
    (carries : Carries made progress) : progress.trace.carriesPid = true := by
  unfold Trace.carriesPid
  rw [Array.all_eq_true_iff_forall_mem]
  intro datagram member
  rw [carries.bytes datagram member, readPayload?_bytes, beq_iff_eq]
  exact congrArg some carries.same.pid.symm

section Paced

variable {made : Machine} {interval : Int64} {time : Span} {progress : Progress}
  (paced : Paced made interval progress) (started : Started time progress)
  (later : time.nanos < progress.world.clock.now.nanos)

include paced started later

/-- A machine that keeps its pace has delivered heartbeats as soon as time has passed in its
loop. -/
theorem Paced.exists_beats : ∃ times last, progress.sentTimes = times ++ [last] ∧
    (times ++ [last]).head? = some time.nanos ∧
      (times ++ [last]).IsChain (IsGap interval) ∧
        IsGap interval last progress.world.clock.now.nanos := by
  obtain ⟨looped, startTime⟩ := started
  have pace := paced.pace
  rw [startTime] at pace
  generalize progress.machine.phase = phase at pace looped
  generalize progress.sentTimes = times at pace ⊢
  cases pace with
  | fresh => exact absurd rfl looped
  | starting same => exact absurd same (Nat.ne_of_gt later)
  | beating turning first chain latest => exact ⟨_, _, rfl, first, chain, latest⟩

/-- The first delivery was at the start of the loop. -/
theorem Paced.first_eq :
    (progress.world.recorder.sent[0]?.map fun datagram ↦ datagram.time.now) = some time := by
  obtain ⟨times, last, sent, first, -, -⟩ := paced.exists_beats started later
  rw [← sent, sentTimes, List.head?_map, List.head?_eq_getElem?, Array.getElem?_toList] at first
  cases found : progress.world.recorder.sent[0]? with
  | none =>
    rw [found] at first
    cases first
  | some datagram =>
    rw [found, Option.map_some, Option.some_inj] at first
    rw [Option.map_some, Option.some_inj]
    exact congrArg Span.mk first

/-- The last delivery was at most a longest round ago. -/
theorem Paced.exists_recent : ∃ datagram ∈ progress.world.recorder.sent,
    progress.world.clock.now.nanos ≤ datagram.time.now.nanos + longestRound interval := by
  obtain ⟨times, last, sent, -, -, latest⟩ := paced.exists_beats started later
  have listed : last ∈ progress.sentTimes := by
    rw [sent]
    exact List.mem_append_right _ List.mem_cons_self
  obtain ⟨datagram, member, rfl⟩ := List.mem_map.mp listed
  exact ⟨datagram, Array.mem_toList_iff.mp member, latest.2⟩

/-- The gaps between the deliveries are rounds of the interval. -/
theorem Paced.gapsWithin {low high : ℕ}
    (least : (Span.ofSeconds low).nanos ≤ shortestRound interval)
    (most : longestRound interval ≤ (Span.ofSeconds high).nanos) :
    progress.trace.gapsWithin low high = true := by
  obtain ⟨times, last, sent, -, chain, -⟩ := paced.exists_beats started later
  refine Trace.gapsWithin_of_isChain ?_ least most
  show progress.sentTimes.IsChain (IsGap interval)
  rw [sent]
  exact chain

end Paced

end Progress

/-! ### The stall after the first ceiling -/

/-- Up to its first ceiling a run shows no event of a ceiling. -/
theorem Observation.isCeiling_eq_false {made : Machine} {interval : Int64} {base count : ℕ}
    {progress : Progress} (observation : Observation made interval base count progress) :
    ∀ stamped ∈ progress.events, stamped.event.isCeiling = false := by
  rintro ⟨time, event⟩ member
  have letter := observation.letter_eq member
  unfold Machine.round at letter
  cases event with
  | ceilingReached elapsed role => split at letter <;> simp [Event.letter] at letter
  | _ => rfl

/-- A ceiling, the steps of a stall and its end are found as they are. -/
theorem Trace.stallWindow?_eq {trace : Trace} {early ticks rest : List Stamped}
    {ceiling finish : Stamped}
    (events : trace.events.toList = early ++ ceiling :: (ticks ++ finish :: rest))
    (before : ∀ stamped ∈ early, stamped.event.isCeiling = false)
    (reached : ceiling.event.isCeiling = true)
    (silent : ∀ tick ∈ ticks, tick.event.isStalled = true)
    (finished : finish.event = .stallFinished) :
    trace.stallWindow? = some ⟨ceiling.time.now, ticks, finish :: rest⟩ := by
  have inside : ∀ tick ∈ ticks, (tick.event != .stallFinished) = true := by
    intro tick member
    have stalled := silent tick member
    rw [bne_iff_ne]
    intro ended
    rw [ended] at stalled
    cases stalled
  have later : trace.events.toList.dropWhile (fun stamped ↦ !stamped.event.isCeiling) =
      ceiling :: (ticks ++ finish :: rest) := by
    rw [events, List.dropWhile_append_of_pos (by simpa using before),
      List.dropWhile_cons_of_neg (by simp [reached])]
  have taken : (ticks ++ finish :: rest).takeWhile
      (fun stamped ↦ stamped.event != .stallFinished) = ticks := by
    rw [List.takeWhile_append_of_pos inside]
    simp [finished]
  have dropped : (ticks ++ finish :: rest).dropWhile
      (fun stamped ↦ stamped.event != .stallFinished) = finish :: rest := by
    rw [List.dropWhile_append_of_pos inside]
    simp [finished]
  unfold stallWindow?
  rw [later]
  dsimp only
  rw [taken, dropped]

namespace StallWindow

variable {window : StallWindow} {step stop : ℕ}

/-- Steps of a stall that take one tick are spaced by it. -/
theorem spaced_eq (ticking : Ticks step window.start.nanos stop window.events)
    (tick : isTick ⟨step⟩ = true) : window.spaced = true := by
  unfold spaced
  dsimp only
  rw [List.all_eq_true]
  intro pair member
  have chain : (window.events.map fun stamped ↦ stamped.time.now).IsChain
      fun earlier later ↦ later.nanos = earlier.nanos + step := by
    rw [List.isChain_map]
    exact ticking.isChain
  have later := rel_of_mem_zip_tail chain member
  have gap : pair.2 - pair.1 = ⟨step⟩ := by
    refine congrArg Span.mk ?_
    rw [later]
    exact Nat.add_sub_cancel_left _ _
  rw [gap]
  exact tick

/-- The time of the last event of a stall is its end. -/
theorem nanos_stop (ticking : Ticks step window.start.nanos stop window.events) :
    window.stop.nanos = stop := by
  rw [← ticking.getLast?_eq]
  unfold StallWindow.stop
  cases window.events.getLast? <;> rfl

/-- What was delivered up to the ceiling or from the end of the stall on has not leaked into it. -/
theorem leaked_eq_zero {trace : Trace}
    (outside : ∀ datagram ∈ trace.recorder.sent, datagram.time.now.nanos ≤ window.start.nanos ∨
      window.stop.nanos ≤ datagram.time.now.nanos) : window.leaked trace = 0 := by
  unfold leaked
  rw [Array.countP_eq_zero]
  intro datagram member inside
  rw [Bool.and_eq_true, decide_eq_true_eq, decide_eq_true_eq, Span.lt_iff, Span.lt_iff] at inside
  rcases outside datagram member with early | late
  · exact absurd inside.1 (Nat.not_lt_of_le early)
  · exact absurd inside.2 (Nat.not_lt_of_le late)

/-- A delivered heartbeat right after the end of the stall resumes. -/
theorem resumes_eq {finish sent : Stamped} {rest : List Stamped}
    (after : window.rest = finish :: sent :: rest) (delivered : sent.event.isSent = true) :
    window.resumes = true := by
  have other : (sent.event != .stallFinished) = true := by
    rw [bne_iff_ne]
    intro finished
    rw [finished] at delivered
    cases delivered
  have found : (sent :: rest).find? (fun stamped ↦ stamped.event != .stallFinished) = some sent :=
    List.find?_cons_of_pos other
  unfold resumes
  rw [after, List.drop_one, List.tail_cons, found]
  exact delivered

end StallWindow

end Heartbeat
