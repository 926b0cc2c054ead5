import Heartbeat.Proofs.SendDiscipline
import Heartbeat.Proofs.TimeAccount

/-!
# The only fault of a step

`Machine.Failure` lists the ways in which a step can fail: the clock cannot count the time that the
step asks for (`Machine.Overflows`), or the stall plan of the machine has no step or no whole length
in the range of spans. `Machine.step_eq_error_iff` says that the list is complete and that nothing
on it is impossible.

For the machine of an instance only the first one is left. A stall plan out of range belongs to a
huge interval, and the machine of such an interval never stalls: at its ceiling a whole observation
window has gone by on a clock of 64 bits, however the clock was set in between. `Machine.Sound`
collects what a machine keeps of this in any world, with the bounds of its numbers, and
`Machine.Sound.step_eq_error_iff` is the consequence for its next step.
`Progress.fails_only_by_overflow` is the statement for every state that can be reached.
-/

set_option autoImplicit false
set_option relaxedAutoImplicit false

namespace Heartbeat

open Machine (SameMake Transition)

namespace Machine

/-! ### Why a step fails -/

section Failures

variable {machine : Machine} {world : World} {fault : Fault}

/-- The time that the next step of a machine asks its clock for, if it asks for any. -/
def request? (machine : Machine) (world : World) : Option Span :=
  match machine.phase with
  | .initialDelay => machine.timing.initialSleep
  | .looping =>
    match machine.activeJitter with
    | none => some idleWait
    | some (low, high) => some (loopWait (machine.attempt world low high).nextWait)
  | .stalling (_ + 1) => machine.timing.stall.step?
  | .ceiling | .stalling 0 | .crashed => none

/-- The clock cannot count the time that the next step asks for. -/
def Overflows (machine : Machine) (world : World) : Prop :=
  ∃ span, machine.request? world = some span ∧
    UInt64.size ≤ world.clock.now.nanos + span.nanos % UInt64.size

/-- Every way in which a step can fail. -/
inductive Failure (machine : Machine) (world : World) : Fault → Prop
  | overflow (late : machine.Overflows world) : Failure machine world .clockOverflow
  | noStep {remaining : ℕ} (phase : machine.phase = .stalling (remaining + 1))
      (silence : machine.timing.stall.step? = none) : Failure machine world .spanOutOfRange
  | noWindow (phase : machine.phase = .stalling 0)
      (silence : machine.timing.stall.window? = none) : Failure machine world .spanOutOfRange

theorem overflows_iff {span : Span} (asks : machine.request? world = some span) :
    machine.Overflows world ↔
      UInt64.size ≤ world.clock.now.nanos + span.nanos % UInt64.size := by
  unfold Overflows
  rw [asks]
  simp

theorem not_overflows (asks : machine.request? world = none) : ¬ machine.Overflows world := by
  rintro ⟨span, asked, -⟩
  rw [asks] at asked
  cases asked

/-- If the stall plan has the span that the next step needs, only the clock can fail. -/
theorem failure_iff
    (step : ∀ remaining, machine.phase = .stalling (remaining + 1) →
      machine.timing.stall.step? ≠ none)
    (window : machine.phase = .stalling 0 → machine.timing.stall.window? ≠ none) :
    Failure machine world fault ↔ machine.Overflows world ∧ fault = .clockOverflow := by
  constructor
  · intro failure
    cases failure with
    | overflow late => exact ⟨late, rfl⟩
    | noStep phase silence => exact absurd silence (step _ phase)
    | noWindow phase silence => exact absurd silence (window phase)
  · rintro ⟨late, rfl⟩
    exact .overflow late

/-- A stall whose plan has no step in the range of spans cannot go on. -/
theorem step_of_noStep {remaining : ℕ} (phase : machine.phase = .stalling (remaining + 1))
    (silence : machine.timing.stall.step? = none) :
    machine.step world = .error .spanOutOfRange := by
  unfold step keepSilent spanOf
  rw [phase]
  dsimp only
  rw [silence]
  rfl

/-- A stall whose plan has no whole length in the range of spans cannot end. -/
theorem step_of_noWindow (phase : machine.phase = .stalling 0)
    (silence : machine.timing.stall.window? = none) :
    machine.step world = .error .spanOutOfRange := by
  unfold step endStall spanOf
  rw [phase]
  dsimp only
  rw [silence]
  rfl

/-- The list of failures is complete, and nothing on it is impossible. -/
theorem step_eq_error_iff : machine.step world = .error fault ↔ Failure machine world fault := by
  cases phase : machine.phase with
  | initialDelay =>
    rw [failure_iff (by simp [phase]) (by simp [phase]), step_of_initialDelay phase,
      map_eq_error_iff, World.advance_eq_error_iff]
    cases sleep : machine.timing.initialSleep with
    | none =>
      have asks : machine.request? world = none := by simp [request?, phase, sleep]
      have still : ¬ UInt64.size ≤ world.clock.now.nanos + Span.zero.nanos % UInt64.size :=
        Nat.not_le_of_lt world.clock.nanos_now_lt
      rw [Option.getD_none]
      simp only [not_overflows asks, still, false_and]
    | some span =>
      have asks : machine.request? world = some span := by simp [request?, phase, sleep]
      rw [overflows_iff asks, Option.getD_some]
  | looping =>
    rw [failure_iff (by simp [phase]) (by simp [phase])]
    cases active : machine.activeJitter with
    | none =>
      have asks : machine.request? world = some idleWait := by simp [request?, phase, active]
      rw [overflows_iff asks, step_of_idle phase active, map_eq_error_iff,
        World.advance_eq_error_iff]
    | some range =>
      have asks : machine.request? world =
          some (loopWait (machine.attempt world range.1 range.2).nextWait) := by
        simp [request?, phase, active]
      rw [overflows_iff asks, step_of_beat phase active, map_eq_error_iff,
        World.advance_eq_error_iff, clock_attempt]
  | ceiling =>
    have asks : machine.request? world = none := by simp [request?, phase]
    rw [failure_iff (by simp [phase]) (by simp [phase]), step_of_ceiling phase]
    simp [not_overflows asks]
  | stalling remaining =>
    cases remaining with
    | zero =>
      have asks : machine.request? world = none := by simp [request?, phase]
      cases silence : machine.timing.stall.window? with
      | none =>
        rw [step_of_noWindow phase silence, Except.error.injEq]
        constructor
        · rintro rfl
          exact .noWindow phase silence
        · intro failure
          cases failure with
          | overflow late => exact absurd late (not_overflows asks)
          | noStep | noWindow => rfl
      | some window =>
        rw [failure_iff (by simp [phase]) (by simp [silence]), step_of_stallOver phase silence]
        simp [not_overflows asks]
    | succ remaining =>
      cases silence : machine.timing.stall.step? with
      | none =>
        have asks : machine.request? world = none := by simp [request?, phase, silence]
        rw [step_of_noStep phase silence, Except.error.injEq]
        constructor
        · rintro rfl
          exact .noStep phase silence
        · intro failure
          cases failure with
          | overflow late => exact absurd late (not_overflows asks)
          | noStep | noWindow => rfl
      | some span =>
        have asks : machine.request? world = some span := by simp [request?, phase, silence]
        rw [failure_iff (by simp [silence]) (by simp [phase]), overflows_iff asks,
          step_of_stalling phase silence, map_eq_error_iff, World.advance_eq_error_iff]
  | crashed =>
    have asks : machine.request? world = none := by simp [request?, phase]
    rw [failure_iff (by simp [phase]) (by simp [phase]), step_of_crashed phase]
    simp [not_overflows asks]

end Failures

/-! ### What a machine keeps in any world -/

/-- The state of a machine of an instance: what it was made with, the agreement of its phase with
the last look at the clock, and numbers that fit the words which hold them. Between the ceiling and
the next round the wait time of a machine with heartbeats is the wait that was drawn last. -/
structure Sound (config : Instance) (machine : Machine) : Prop where
  times : machine.timing = Timing.ofInstance config
  range : machine.activeJitter = jitterBounds config.interval
  coherent : Coherent machine
  startTime : machine.state.startTime.nanos < UInt64.size
  elapsed : machine.state.elapsed.nanos < UInt64.size
  waitTime : machine.state.waitTime ≤ maxCounter
  drawn : 0 < config.interval.toInt → machine.phase.isPastLoop = true →
    machine.state.waitTime ≤ config.interval.toInt.toNat / 2

/-- A machine is sound when it is made, in whatever colours it shows its name. -/
theorem sound_create (config : Instance) (role : Role) (tap : Tap) (pid : UInt32) (time : Clock)
    (palette : Palette) :
    Sound config ((create config role tap pid time).withPalette palette) where
  times := rfl
  range := activeJitter_create config role tap pid time
  coherent := .of_early rfl
  startTime := time.nanos_now_lt
  elapsed := Nat.zero_lt_succ _
  waitTime := by
    have most := config.delay.toInt_lt
    show config.delay.toInt.toNat ≤ 18446744073709551615
    omega
  drawn _ past := by cases past

theorem lasting_sound (config : Instance) : Lasting (Sound config) := by
  intro machine world outcome sound transition
  have same := transition.sameMake
  have times := same.timing.trans sound.times
  have range := same.activeJitter_eq.trans sound.range
  have coherent := lasting_coherent machine world outcome sound.coherent transition
  have size : UInt64.size = 18446744073709551616 := rfl
  cases transition with
  | @delay later phase wait =>
    exact ⟨times, range, coherent, later.clock.nanos_now_lt, sound.elapsed, sound.waitTime,
      fun _ past ↦ by cases past⟩
  | @idle later phase disabled wait =>
    have elapsed : (later.clock.now - machine.state.startTime).nanos < UInt64.size :=
      Nat.lt_of_le_of_lt (Nat.sub_le _ _) later.clock.nanos_now_lt
    refine ⟨times, range, coherent, sound.startTime, elapsed, sound.waitTime, ?_⟩
    intro positive
    rw [sound.range, jitterBounds_eq_none_iff] at disabled
    exact absurd positive disabled
  | @beat low high later phase enabled wait =>
    have elapsed : (later.clock.now - machine.state.startTime).nanos < UInt64.size :=
      Nat.lt_of_le_of_lt (Nat.sub_le _ _) later.clock.nanos_now_lt
    have most := (@nextWait_attempt_mem_range machine world config.interval low high
      (sound.range.symm.trans enabled)).2
    have interval := config.interval.toInt_lt
    have waitTime : (machine.attempt world low high).nextWait ≤ maxCounter := by
      unfold maxCounter
      omega
    exact ⟨times, range, coherent, sound.startTime, elapsed, waitTime, fun _ _ ↦ most⟩
  | crash phase | fallSilent phase | keepSilent phase =>
    refine ⟨times, range, coherent, sound.startTime, sound.elapsed, sound.waitTime, ?_⟩
    exact fun positive _ ↦ sound.drawn positive (by rw [phase]; rfl)
  | goOn phase =>
    exact ⟨times, range, coherent, sound.startTime, sound.elapsed, sound.waitTime,
      fun _ past ↦ by cases past⟩
  | endStall phase =>
    exact ⟨times, range, coherent, sound.startTime, sound.elapsed, Nat.min_le_right _ _,
      fun _ past ↦ by cases past⟩
  | rest phase => exact sound

namespace Sound

variable {config : Instance} {machine : Machine} {world : World} {fault : Fault} {remaining : ℕ}

/-- A machine that stalls has an interval of which five can be counted by a clock. -/
theorem fiveIntervals_le (sound : Sound config machine)
    (stalling : machine.phase = .stalling remaining) :
    fiveIntervals config.interval ≤ 18446744073 := by
  have closed : machine.timing.maxRuntime.nanos ≤ machine.state.elapsed.nanos :=
    sound.coherent.closed (by rw [stalling]; rfl)
  have counted := sound.elapsed
  rw [sound.times] at closed
  unfold Timing.ofInstance Span.ofSeconds Span.perSecond maxRuntime at closed
  unfold UInt64.size at counted
  dsimp only at closed
  omega

/-- The step of a stall that is reached is a span that a clock can count. -/
theorem exists_step (sound : Sound config machine)
    (stalling : machine.phase = .stalling remaining) :
    ∃ step, machine.timing.stall.step? = some step ∧ step.nanos < UInt64.size := by
  have next := StallPlan.nextSecond_le_of_fiveIntervals_le (sound.fiveIntervals_le stalling)
  obtain ⟨step, planned, -, most⟩ := StallPlan.exists_long_step config.interval
  refine ⟨step, ?_, ?_⟩
  · rw [sound.times]
    exact planned
  · unfold UInt64.size
    omega

/-- The whole length of a stall that is reached is a span. The silence that it adds to the wait time
is a counter, and with heartbeats so is the sum. -/
theorem exists_window (sound : Sound config machine)
    (stalling : machine.phase = .stalling remaining) :
    ∃ window, machine.timing.stall.window? = some window ∧
      Binary64.roundHalfUp window.number ≤ maxCounter ∧
      (0 < config.interval.toInt →
        machine.state.waitTime + Binary64.roundHalfUp window.number ≤ maxCounter) := by
  obtain ⟨window, made, silence⟩ :=
    StallPlan.exists_window (sound.fiveIntervals_le stalling)
  refine ⟨window, ?_, ?_, ?_⟩
  · rw [sound.times]
    exact made
  · unfold maxCounter
    omega
  · intro positive
    have drawn := sound.drawn positive (by rw [stalling]; rfl)
    have interval := config.interval.toInt_lt
    unfold maxCounter
    omega

/-- The next step of a sound machine fails exactly if the clock cannot count its time. -/
theorem step_eq_error_iff (sound : Sound config machine) :
    machine.step world = .error fault ↔ machine.Overflows world ∧ fault = .clockOverflow := by
  rw [Machine.step_eq_error_iff, failure_iff]
  · intro remaining stalling
    obtain ⟨step, planned, -⟩ := sound.exists_step stalling
    simp [planned]
  · intro stalling
    obtain ⟨window, made, -⟩ := sound.exists_window stalling
    simp [made]

end Sound

end Machine

/-! ### Runs -/

/-- What others do to a world fails only if they ask its clock for too much time. -/
theorem World.undergo_eq_error {world : World} {intervention : Intervention} {fault : Fault}
    (failed : world.undergo intervention = .error fault) : fault = .clockOverflow := by
  cases intervention with
  | advance span => exact (advance_eq_error_iff.mp failed).2
  | setTime time | setUnreachable unreachable | draw low high => cases failed

namespace Progress

/-- A run of a sound machine, with anything done to its world, ends with no other fault. -/
theorem fault_eq_of_follow {config : Instance} {moves : List Move} {progress : Progress}
    {fault : Fault} (sound : progress.machine.Sound config)
    (failed : progress.follow moves = .error fault) : fault = .clockOverflow := by
  induction moves generalizing progress with
  | nil => cases failed
  | cons made moves ih =>
    rw [follow_cons] at failed
    cases moved : progress.move made with
    | ok next =>
      rw [moved] at failed
      have only : progress.follow [made] = .ok next := by
        rw [follow_cons, moved]
        rfl
      exact ih ((Machine.lasting_sound config).follow sound only) failed
    | error other =>
      rw [moved] at failed
      cases failed
      cases made with
      | step => exact (sound.step_eq_error_iff.mp (map_eq_error_iff.mp moved)).2
      | outside intervention => exact World.undergo_eq_error (map_eq_error_iff.mp moved)

/-- The recorder has counted every attempt since a world, as long as its counter can. -/
def Counted (first : World) (progress : Progress) : Prop :=
  first.recorder.attempts.toNat + progress.letters.count .attempt < UInt64.size →
    progress.world.recorder.attempts.toNat =
      first.recorder.attempts.toNat + progress.letters.count .attempt

theorem Counted.move {first : World} {made : Move} {progress next : Progress}
    (counted : Counted first progress) (moved : progress.move made = .ok next) :
    Counted first next := by
  cases made with
  | step =>
    obtain ⟨outcome, transition, rfl⟩ := move_step_eq_ok_iff.mp moved
    have recorded := transition.recorded.attempts_eq
    unfold Counted
    rw [letters_after, List.count_append, List.count_singleton]
    change _ + (progress.letters.count .attempt + _) < _ →
      outcome.world.recorder.attempts.toNat = _ + (progress.letters.count .attempt + _)
    intro room
    have before := counted (by omega)
    rw [recorded]
    by_cases attempt : outcome.event.letter = .attempt
    · rw [if_pos (beq_iff_eq.mpr attempt)] at room ⊢
      rw [if_pos attempt, UInt64.toNat_add, before]
      exact Nat.mod_eq_of_lt room
    · rw [if_neg attempt, if_neg (by simpa using attempt), UInt64.add_zero]
      exact before
  | outside intervention =>
    obtain ⟨world, undergone, rfl⟩ := exists_world_of_move_outside moved
    intro room
    exact (congrArg UInt64.toNat (World.recorder_of_undergo undergone).2.1).trans (counted room)

/-- What is true of a state that the machine of an instance has come to from a world on, and of its
next step. -/
structure Safe (config : Instance) (first : World) (progress : Progress) : Prop where
  fails_iff : ∀ fault, progress.machine.step progress.world = .error fault ↔
    fault = .clockOverflow ∧ ∃ span, progress.machine.request? progress.world = some span ∧
      UInt64.size ≤ progress.world.clock.now.nanos + span.nanos % UInt64.size
  stall : ∀ remaining, progress.machine.phase = .stalling remaining → remaining ≤ maxCounter ∧
    (∃ step, progress.machine.timing.stall.step? = some step ∧ step.nanos < UInt64.size) ∧
    ∃ window, progress.machine.timing.stall.window? = some window ∧
      Binary64.roundHalfUp window.number ≤ maxCounter ∧ (0 < config.interval.toInt →
        progress.machine.state.waitTime + Binary64.roundHalfUp window.number ≤ maxCounter)
  waitTime : progress.machine.state.waitTime ≤ maxCounter
  startTime : progress.machine.state.startTime.nanos < UInt64.size
  elapsed : progress.machine.state.elapsed.nanos < UInt64.size
  attempts : Counted first progress

/-- However the steps of the machine of an instance are mixed with what others do to its world, its
next step fails exactly if the sum of the time on the clock and the time that it asks for is past
the last nanosecond of the clock, and with no other fault. Whenever it stalls, the step and the
whole length of the stall are spans. All numbers of its state fit 64 bits; the wait time after a
stall is a sum that may have to be cut to them, but not if the machine has heartbeats. -/
theorem fails_only_by_overflow (config : Instance) (role : Role) (tap : Tap) (pid : UInt32)
    (world : World) (palette : Palette) {moves : List Move} {last : Progress}
    (followed : (start ((Machine.create config role tap pid world.clock).withPalette palette)
      world).follow moves = .ok last) :
    Safe config world last := by
  have sound := (Machine.lasting_sound config).follow
    (Machine.sound_create config role tap pid world.clock palette) followed
  constructor
  case fails_iff =>
    intro fault
    rw [sound.step_eq_error_iff, and_comm]
    rfl
  case stall =>
    intro remaining stalling
    refine ⟨?_, sound.exists_step stalling, sound.exists_window stalling⟩
    exact (sound.coherent.silent remaining stalling).2.trans (by
      rw [sound.times]
      exact StallPlan.repeats_le_maxCounter config.interval)
  case waitTime => exact sound.waitTime
  case startTime => exact sound.startTime
  case elapsed => exact sound.elapsed
  case attempts =>
    exact holds_of_follow (Counted world) (fun _ _ _ _ counted moved ↦ counted.move moved)
      (fun _ ↦ rfl) followed

/-- The longest interval with a stall: the clock is set to its last seconds, and the stall that
follows asks for more than there are. -/
theorem fails_only_by_overflow_at_last_second : ∃ moves last span,
    moves = [.step, .outside (.setTime ⟨18446744072000000000⟩), .step, .step] ∧
    (start ((Machine.create ⟨1, "worker", 0, -3689348814, 12345⟩ .noHeartbeat ⟨12345, 0⟩ 1007
      Clock.start).withPalette .plain) (World.ofSeed 7)).follow moves = .ok last ∧
    last.machine.phase = .stalling 50 ∧
    last.machine.step last.world = .error .clockOverflow ∧
    last.machine.request? last.world = some span ∧
    UInt64.size ≤ last.world.clock.now.nanos + span.nanos % UInt64.size := by
  have shown : ((start ((Machine.create ⟨1, "worker", 0, -3689348814, 12345⟩ .noHeartbeat ⟨12345, 0⟩
      1007 Clock.start).withPalette .plain) (World.ofSeed 7)).follow
        [.step, .outside (.setTime ⟨18446744072000000000⟩), .step, .step]).map
      (fun last ↦ (last.machine.phase, (last.machine.step last.world).map fun _ ↦ ())) =
        .ok (.stalling 50, .error .clockOverflow) := by
    decide +kernel
  obtain ⟨last, followed, found⟩ := map_eq_ok_iff.mp shown
  obtain ⟨phase, stepped⟩ := Prod.mk.inj found
  have failed := map_eq_error_iff.mp stepped
  have safe := fails_only_by_overflow ⟨1, "worker", 0, -3689348814, 12345⟩ .noHeartbeat ⟨12345, 0⟩
    1007 (World.ofSeed 7) .plain followed
  obtain ⟨-, span, asked, passed⟩ := (safe.fails_iff .clockOverflow).mp failed
  exact ⟨_, last, span, rfl, followed, phase, failed, asked, passed⟩

end Progress

end Heartbeat
