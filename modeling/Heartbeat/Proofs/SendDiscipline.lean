import Heartbeat.Proofs.Interference
import Heartbeat.Proofs.ReportedWait

/-!
# When a machine sends

Whether a machine has heartbeats is said twice: by the range that it draws its waits from and by a
flag of its state. Both are fixed when it is made and both go back to the sign of its interval, so
they agree in every state. A machine without heartbeats never makes an attempt and never draws,
whatever happens to its world (`Progress.Unsent`); a machine with heartbeats makes exactly one
attempt in each step that it takes in the loop, and none in any other step.
`Progress.mute_or_beating` is the statement for both kinds.
-/

set_option autoImplicit false
set_option relaxedAutoImplicit false

namespace Heartbeat

open Machine (SameMake Transition)

/-! ### What others do to the recorder and the keystream -/

namespace World

variable {world later : World} {intervention : Intervention}

/-- Nobody else sends: the record and the counters stay as they are. -/
theorem recorder_of_undergo (undergone : world.undergo intervention = .ok later) :
    later.recorder.sent = world.recorder.sent ∧
      later.recorder.attempts = world.recorder.attempts ∧
      later.recorder.failures = world.recorder.failures := by
  cases intervention with
  | advance span =>
    obtain ⟨clock, -, rfl⟩ := advance_eq_ok_iff.mp undergone
    exact ⟨rfl, rfl, rfl⟩
  | setTime time | setUnreachable unreachable | draw low high =>
    cases undergone
    exact ⟨rfl, rfl, rfl⟩

/-- Only a draw moves the keystream. -/
theorem stream_of_undergo (undrawn : ∀ low high, intervention ≠ .draw low high)
    (undergone : world.undergo intervention = .ok later) : later.stream = world.stream := by
  cases intervention with
  | advance span =>
    obtain ⟨clock, -, rfl⟩ := advance_eq_ok_iff.mp undergone
    rfl
  | setTime time | setUnreachable unreachable =>
    cases undergone
    rfl
  | draw low high => exact absurd rfl (undrawn low high)

end World

/-! ### One step -/

namespace Machine

variable {machine : Machine} {world : World} {outcome : Outcome}

/-- A machine without a range to draw from makes no attempt. -/
theorem Transition.letter_ne_attempt (transition : Transition machine world outcome)
    (disabled : machine.activeJitter = none) : outcome.event.letter ≠ .attempt := by
  intro attempt
  have looping := transition.looping_of_attempt attempt
  rw [(transition.isRound looping).letter, round, if_pos disabled] at attempt
  cases attempt

/-- An attempt sends the heartbeat of its machine once, at the time before the wait. -/
theorem Transition.recorder_of_attempt (transition : Transition machine world outcome)
    (attempt : outcome.event.letter = .attempt) :
    outcome.world.recorder =
      (machine.tap.send world.recorder world.clock machine.payload.bytes).2 := by
  cases transition with
  | @beat low high later phase enabled wait =>
    obtain ⟨clock, -, rfl⟩ := World.advance_eq_ok_iff.mp wait
    exact machine.recorder_attempt world low high
  | delay | idle | crash | fallSilent | goOn | endStall | keepSilent | rest =>
    simp [Event.letter] at attempt

end Machine

namespace Progress

/-! ### Runs without heartbeats -/

/-- A run without heartbeats from a world on: nothing was sent since, nothing was tried, and no
event tells of an attempt. -/
structure Unsent (first : World) (progress : Progress) : Prop where
  disabled : progress.machine.activeJitter = none
  sent : progress.world.recorder.sent = first.recorder.sent
  attempts : progress.world.recorder.attempts = first.recorder.attempts
  failures : progress.world.recorder.failures = first.recorder.failures
  events : ∀ stamped ∈ progress.events, stamped.event.letter ≠ .attempt

/-- A machine without heartbeats sends nothing in any move. -/
theorem Unsent.move {first : World} {made : Move} {progress next : Progress}
    (unsent : Unsent first progress) (moved : progress.move made = .ok next) :
    Unsent first next := by
  cases made with
  | step =>
    obtain ⟨outcome, transition, rfl⟩ := move_step_eq_ok_iff.mp moved
    have quiet := transition.letter_ne_attempt unsent.disabled
    have recorder : outcome.world.recorder = progress.world.recorder := by
      rw [transition.world_eq quiet]
    refine ⟨transition.sameMake.activeJitter_eq.trans unsent.disabled, ?_, ?_, ?_, ?_⟩
    · exact (congrArg Recorder.sent recorder).trans unsent.sent
    · exact (congrArg Recorder.attempts recorder).trans unsent.attempts
    · exact (congrArg Recorder.failures recorder).trans unsent.failures
    · intro stamped member
      rcases Array.mem_push.mp member with old | rfl
      · exact unsent.events stamped old
      · exact quiet
  | outside intervention =>
    obtain ⟨world, undergone, rfl⟩ := exists_world_of_move_outside moved
    obtain ⟨sent, attempts, failures⟩ := World.recorder_of_undergo undergone
    exact ⟨unsent.disabled, sent.trans unsent.sent, attempts.trans unsent.attempts,
      failures.trans unsent.failures, unsent.events⟩

/-- A machine without heartbeats draws nothing, so the keystream stays as it is if nobody else
draws. -/
theorem stream_of_follow_of_disabled {moves : List Move} {first last : Progress}
    (disabled : first.machine.activeJitter = none)
    (undrawn : ∀ low high, Move.outside (.draw low high) ∉ moves)
    (followed : first.follow moves = .ok last) : last.world.stream = first.world.stream := by
  have kept : last.machine.activeJitter = none ∧ last.world.stream = first.world.stream := by
    refine holds_of_follow (fun later ↦ later.machine.activeJitter = none ∧
      later.world.stream = first.world.stream) (fun made member progress next same moved ↦ ?_)
      ⟨disabled, rfl⟩ followed
    obtain ⟨still, stream⟩ := same
    cases made with
    | step =>
      obtain ⟨outcome, transition, rfl⟩ := move_step_eq_ok_iff.mp moved
      refine ⟨transition.sameMake.activeJitter_eq.trans still, ?_⟩
      show outcome.world.stream = _
      rw [transition.world_eq (transition.letter_ne_attempt still)]
      exact stream
    | outside intervention =>
      obtain ⟨world, undergone, rfl⟩ := exists_world_of_move_outside moved
      refine ⟨still, (World.stream_of_undergo ?_ undergone).trans stream⟩
      rintro low high rfl
      exact undrawn low high member
  exact kept.2

/-! ### Both kinds of machines -/

/-- Without heartbeats a machine sends nothing and draws nothing in any run, whatever else happens
to its world: a fresh recorder stays empty and its counters at zero. With heartbeats every step in
the loop makes exactly one attempt to send, of the letter p and the process id in decimal, and every
other step makes none. -/
theorem mute_or_beating (config : Instance) (role : Role) (tap : Tap) (pid : UInt32)
    (world : World) {moves : List Move} {last : Progress}
    (followed : (fresh config role tap pid world).follow moves = .ok last) :
    (config.interval.toInt ≤ 0 →
      last.world.recorder.sent = world.recorder.sent ∧
      last.world.recorder.attempts = world.recorder.attempts ∧
      last.world.recorder.failures = world.recorder.failures ∧
      (∀ stamped ∈ last.events, stamped.event.letter ≠ .attempt) ∧
      ((∀ low high, Move.outside (.draw low high) ∉ moves) →
        last.world.stream = world.stream)) ∧
    (0 < config.interval.toInt → ∀ outcome, last.machine.step last.world = .ok outcome →
      (last.machine.phase = .looping →
        outcome.event.letter = .attempt ∧
        outcome.world.recorder.attempts = last.world.recorder.attempts + 1 ∧
        outcome.world.recorder = (tap.send last.world.recorder last.world.clock
          (('p' :: Nat.toDigits 10 pid.toNat).map fun c ↦ UInt8.ofNat c.toNat)).2) ∧
      (last.machine.phase ≠ .looping →
        outcome.event.letter ≠ .attempt ∧
        outcome.world.recorder = last.world.recorder)) := by
  have range := Machine.activeJitter_create config role tap pid world.clock
  have same := (Machine.lasting_sameMake _).follow (SameMake.refl _) followed
  constructor
  · intro nonpositive
    have disabled : (Machine.create config role tap pid world.clock).activeJitter = none := by
      rw [range, Machine.jitterBounds_eq_none_iff]
      omega
    have unsent : Unsent world last :=
      holds_of_follow (Unsent world) (fun _ _ _ _ unsent moved ↦ unsent.move moved)
        ⟨disabled, rfl, rfl, rfl, fun _ member ↦ absurd member (Array.not_mem_empty _)⟩ followed
    exact ⟨unsent.sent, unsent.attempts, unsent.failures, unsent.events,
      fun undrawn ↦ stream_of_follow_of_disabled disabled undrawn followed⟩
  · intro positive outcome stepped
    have transition := Machine.transition_of_step stepped
    have enabled : last.machine.activeJitter ≠ none := by
      rw [same.activeJitter_eq]
      show (Machine.create config role tap pid world.clock).activeJitter ≠ none
      rw [range, Ne, Machine.jitterBounds_eq_none_iff, not_not]
      exact positive
    constructor
    · intro looping
      have attempt := (transition.letter_eq_attempt_iff enabled).mpr looping
      have recorder := transition.recorder_of_attempt attempt
      have heard : last.machine.tap = tap := same.tap
      have said : last.machine.payload = ⟨pid⟩ := same.payload_eq
      rw [heard, said] at recorder
      refine ⟨attempt, ?_, recorder⟩
      rw [recorder, Tap.attempts_send]
    · intro elsewhere
      exact ⟨fun attempt ↦ elsewhere (transition.looping_of_attempt attempt),
        transition.recorder_eq elsewhere⟩

/-- Through a stall and with the clock set back, an idle machine has tried nothing and drawn nothing;
a machine with an interval of three seconds makes its second attempt in its second round. -/
theorem mute_or_beating_after_setback :
    (∃ last, (fresh ⟨2, "idler", 0, 0, 12345⟩ .noHeartbeat ⟨12345, 2⟩ 1007
        (World.ofSeed 7)).follow [.step, .outside (.advance (Span.ofSeconds 200)), .step, .step,
          .outside (.setTime Clock.start), .step, .outside (.setUnreachable true), .step] =
            .ok last ∧
      last.machine.phase = .stalling 48 ∧ last.world.recorder.sent = #[] ∧
      last.world.recorder.attempts = 0 ∧ last.world.stream = Keystream.ofSeed 7) ∧
    ∃ last outcome, (fresh ⟨1, "worker", 2, 3, 12345⟩ .crash ⟨12345, 2⟩ 1007
        (World.ofSeed 7)).follow [.step, .step] = .ok last ∧
      last.machine.step last.world = .ok outcome ∧ last.machine.phase = .looping ∧
      last.world.recorder.attempts = 1 ∧ outcome.world.recorder.attempts = 2 := by
  have idle : ((fresh ⟨2, "idler", 0, 0, 12345⟩ .noHeartbeat ⟨12345, 2⟩ 1007
      (World.ofSeed 7)).follow [.step, .outside (.advance (Span.ofSeconds 200)), .step, .step,
        .outside (.setTime Clock.start), .step, .outside (.setUnreachable true), .step]).map
      (fun last ↦ last.machine.phase) = .ok (.stalling 48) := by
    decide +kernel
  have busy : ((fresh ⟨1, "worker", 2, 3, 12345⟩ .crash ⟨12345, 2⟩ 1007 (World.ofSeed 7)).follow
      [.step, .step]).bind (fun last ↦ (last.machine.step last.world).map fun _ ↦
        (last.machine.phase, last.world.recorder.attempts)) = .ok (.looping, 1) := by
    decide +kernel
  obtain ⟨silent, stalled, phase⟩ := map_eq_ok_iff.mp idle
  obtain ⟨last, beaten, stepped⟩ := bind_eq_ok_iff.mp busy
  obtain ⟨outcome, step, found⟩ := map_eq_ok_iff.mp stepped
  obtain ⟨looping, attempts⟩ := Prod.mk.inj found
  obtain ⟨sent, tried, -, -, stream⟩ := (mute_or_beating ⟨2, "idler", 0, 0, 12345⟩ .noHeartbeat
    ⟨12345, 2⟩ 1007 (World.ofSeed 7) stalled).1 (by decide)
  obtain ⟨-, counted, -⟩ := ((mute_or_beating ⟨1, "worker", 2, 3, 12345⟩ .crash ⟨12345, 2⟩ 1007
    (World.ofSeed 7) beaten).2 (by decide) outcome step).1 looping
  refine ⟨⟨silent, stalled, phase, sent, tried, stream (by simp)⟩,
    last, outcome, beaten, step, looping, attempts, ?_⟩
  rw [counted, attempts]
  rfl

end Progress

end Heartbeat
