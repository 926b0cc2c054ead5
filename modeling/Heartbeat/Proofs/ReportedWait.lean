import Heartbeat.Proofs.ObservationWindow
import Heartbeat.Proofs.StallLength
import Mathlib.Data.List.Chain

/-!
# The wait that is reported

A heartbeat reports for how many seconds its machine has been silent. `Progress.sendings` lists the
attempts of a run, each with its time and the wait time of the machine just before it, and
`Awaits` says what the wait time is in each phase since the last attempt. A step in the loop makes
an attempt, after which the next one is awaited (`Awaits.of_looping`), and every other step goes on
awaiting the same one (`Awaits.of_ne_looping`), also through a whole stall, whose length is computed
from the plan and not measured (`StallPlan.exists_silence`). So between two attempts that follow
each other the wait time is the time that has passed, rounded half up to whole seconds
(`isChain_sendings`).
-/

set_option autoImplicit false
set_option relaxedAutoImplicit false

namespace Heartbeat

open Machine (SameMake Transition loopWait)

/-- The seconds of a span, rounded half up. -/
def Span.roundedSeconds (span : Span) : ℕ :=
  (span.nanos + 500000000) / perSecond

/-! ### The attempts of a run -/

/-- An attempt in a run: its time, the wait time of the machine just before it, and its event. -/
structure Sending where
  time : Span
  waitTime : ℕ
  event : Event

namespace Sending

/-- The wait time is the time since the attempt before, rounded half up to whole seconds. -/
def Follows (earlier later : Sending) : Prop :=
  earlier.time < later.time ∧ later.waitTime = (later.time - earlier.time).roundedSeconds

/-- A heartbeat that is delivered reports the wait time. -/
def Reports (sending : Sending) : Prop :=
  ∀ payload waitTime nextWait, sending.event = .heartbeatSent payload waitTime nextWait →
    waitTime = sending.waitTime

end Sending

namespace Progress

/-- The attempt of a step, if the step makes one. -/
def sendingOf (progress : Progress) (outcome : Machine.Outcome) : List Sending :=
  if outcome.event.letter = .attempt then
    [⟨progress.world.clock.now, progress.machine.state.waitTime, outcome.event⟩]
  else []

/-- The attempts of a run in order, up to its end or to a fault. -/
def sendings : List Move → Progress → List Sending
  | [], _ => []
  | .outside intervention :: moves, progress =>
    match progress.undergo intervention with
    | .ok next => sendings moves next
    | .error _ => []
  | .step :: moves, progress =>
    match progress.machine.step progress.world with
    | .ok outcome => progress.sendingOf outcome ++
        sendings moves (after progress.events progress.notices outcome)
    | .error _ => []

end Progress

/-! ### The wait time in each phase -/

/-- The time since the last attempt and the wait time, given the phase and the time. Before the
first attempt there is no last one and the wait time is the delay. The steps of a stall are as long
as `step`. -/
inductive Awaits (interval delay : Int64) (step : Span) : Option Span → Phase → Span → ℕ → Prop
  | fresh {phase : Phase} {now : Span} (early : phase = .initialDelay ∨ phase = .looping) :
      Awaits interval delay step none phase now delay.toInt.toNat
  | waited {phase : Phase} {last now : Span} {draw : ℕ}
      (turning : phase = .looping ∨ phase = .ceiling) (least : interval.toInt.toNat / 3 ≤ draw)
      (most : draw ≤ interval.toInt.toNat / 2)
      (passed : now.nanos = last.nanos + (loopWait draw).nanos) :
      Awaits interval delay step (some last) phase now draw
  | silent {last now : Span} {draw remaining : ℕ} (least : interval.toInt.toNat / 3 ≤ draw)
      (most : draw ≤ interval.toInt.toNat / 2)
      (passed : now.nanos + remaining * step.nanos = last.nanos + (loopWait draw).nanos +
        (StallPlan.ofInterval interval).repeats * step.nanos) :
      Awaits interval delay step (some last) (.stalling remaining) now draw
  | resuming {last now : Span} {draw : ℕ} (least : interval.toInt.toNat / 3 ≤ draw)
      (most : draw ≤ interval.toInt.toNat / 2)
      (passed : now.nanos = last.nanos + (loopWait draw).nanos +
        (StallPlan.ofInterval interval).repeats * step.nanos) :
      Awaits interval delay step (some last) .looping now
        (draw + ((StallPlan.ofInterval interval).repeats * step.nanos + 500000000) / 1000000000)
  | crashed {last now : Span} {waitTime : ℕ} :
      Awaits interval delay step (some last) .crashed now waitTime

/-- What an attempt has to report: the delay if it is the first one, and the time since the last
attempt otherwise. -/
def Answers (delay : Int64) (now : Span) (waitTime : ℕ) : Option Span → Prop
  | none => waitTime = delay.toInt.toNat
  | some last => last < now ∧ waitTime = (now - last).roundedSeconds

namespace Awaits

variable {interval delay : Int64} {step now : Span} {prior : Option Span} {waitTime : ℕ}

/-- In the loop the wait time is what the next attempt has to report. -/
theorem answers (silence : StallPlan.Silence interval step)
    (awaits : Awaits interval delay step prior .looping now waitTime) :
    Answers delay now waitTime prior := by
  cases awaits with
  | fresh early => rfl
  | @waited _ last _ draw turning least most passed =>
    rw [Machine.nanos_loopWait] at passed
    unfold Span.ofSeconds Span.ofMillis Span.perSecond at passed
    simp only at passed
    constructor
    · rw [Span.lt_iff]
      omega
    · unfold Span.roundedSeconds Span.perSecond
      rw [Span.nanos_sub]
      omega
  | @resuming last _ draw least most passed =>
    rw [Machine.nanos_loopWait] at passed
    unfold Span.ofSeconds Span.ofMillis Span.perSecond at passed
    simp only at passed
    constructor
    · rw [Span.lt_iff]
      omega
    · unfold Span.roundedSeconds Span.perSecond
      rw [Span.nanos_sub]
      by_cases none : draw = 0
      · -- The wait was a millisecond, so the interval is short and the stall takes whole seconds.
        rw [silence.shortest (by omega)] at passed ⊢
        omega
      · generalize (StallPlan.ofInterval interval).repeats * step.nanos = stall at passed ⊢
        omega

variable {machine : Machine} {world : World} {outcome : Machine.Outcome}

/-- After an attempt a machine awaits the next one. -/
theorem of_looping (positive : 0 < interval.toInt) (bounded : interval.toInt ≤ 2147483648)
    (range : machine.activeJitter = jitterBounds interval)
    (transition : Transition machine world outcome) (looping : machine.phase = .looping) :
    Awaits interval delay step (some world.clock.now) outcome.machine.phase
      outcome.world.clock.now outcome.machine.state.waitTime := by
  have turned := transition.turned looping
  have moved := Clock.nanos_now_of_advance transition.advance_duration
  cases transition with
  | idle phase disabled wait =>
    rw [range, Machine.jitterBounds_eq_none_iff] at disabled
    exact absurd positive disabled
  | @beat low high later phase enabled wait =>
    obtain ⟨least, most⟩ := @Machine.nextWait_attempt_mem_range machine world interval low high
      (range.symm.trans enabled)
    rw [Machine.Attempt.duration_event, Machine.nanos_loopWait] at moved
    refine .waited turned least most ?_
    rw [Machine.nanos_loopWait]
    rw [Nat.mod_eq_of_lt] at moved
    · exact moved
    · unfold Span.ofSeconds Span.ofMillis Span.perSecond UInt64.size
      simp only
      omega
  | delay phase | crash phase | fallSilent phase | goOn phase | endStall phase | keepSilent phase
  | rest phase => exact absurd (looping.symm.trans phase) (by simp)

/-- The wait time after a stall does not reach the greatest counter. -/
theorem min_maxCounter (silence : StallPlan.Silence interval step)
    (bounded : interval.toInt ≤ 2147483648) {draw : ℕ} (most : draw ≤ interval.toInt.toNat / 2) :
    min (draw + ((StallPlan.ofInterval interval).repeats * step.nanos + 500000000) / 1000000000)
      maxCounter =
      draw + ((StallPlan.ofInterval interval).repeats * step.nanos + 500000000) / 1000000000 := by
  have total := Nat.mul_le_mul silence.few silence.small.le
  unfold maxCounter
  omega

/-- Outside the loop a machine still awaits the same attempt. -/
theorem of_ne_looping (bounded : interval.toInt ≤ 2147483648)
    (silence : StallPlan.Silence interval step)
    (plan : machine.timing.stall = StallPlan.ofInterval interval)
    (transition : Transition machine world outcome) (elsewhere : machine.phase ≠ .looping)
    (awaits : Awaits interval delay step prior machine.phase world.clock.now
      machine.state.waitTime) :
    Awaits interval delay step prior outcome.machine.phase outcome.world.clock.now
      outcome.machine.state.waitTime := by
  have moved := Clock.nanos_now_of_advance transition.advance_duration
  generalize now : world.clock.now = before at awaits
  generalize reported : machine.state.waitTime = waited at awaits
  cases transition with
  | @delay later phase wait =>
    rw [phase] at awaits
    cases awaits with
    | fresh early =>
      show Awaits interval delay step none .looping later.clock.now machine.state.waitTime
      rw [reported]
      exact .fresh (.inr rfl)
    | waited turning => simp at turning
  | idle phase disabled wait | beat phase enabled wait => exact absurd phase elsewhere
  | crash phase role =>
    rw [phase] at awaits
    cases awaits with
    | fresh early => simp at early
    | waited turning least most passed => exact .crashed
  | fallSilent phase role =>
    rw [phase] at awaits
    cases awaits with
    | fresh early => simp at early
    | @waited _ last _ _ turning least most passed =>
      show Awaits interval delay step (some last) (.stalling machine.timing.stall.repeats)
        world.clock.now machine.state.waitTime
      rw [reported, now, plan]
      exact .silent least most (by rw [passed])
  | goOn phase role =>
    rw [phase] at awaits
    cases awaits with
    | fresh early => simp at early
    | @waited _ last _ _ turning least most passed =>
      show Awaits interval delay step (some last) .looping world.clock.now machine.state.waitTime
      rw [reported, now]
      exact .waited (.inl rfl) least most passed
  | @endStall window phase made =>
    rw [phase] at awaits
    cases awaits with
    | fresh early => simp at early
    | waited turning => simp at turning
    | @silent last _ _ _ least most passed =>
      obtain ⟨whole, planned, rounded⟩ := silence.window
      rw [← plan, made, Option.some_inj] at planned
      show Awaits interval delay step (some last) .looping world.clock.now
        (min (machine.state.waitTime + Binary64.roundHalfUp window.number) maxCounter)
      rw [planned, rounded, reported, now, min_maxCounter silence bounded most]
      refine .resuming least most ?_
      rwa [Nat.zero_mul, Nat.add_zero] at passed
  | @keepSilent remaining span later phase made wait =>
    rw [phase] at awaits
    cases awaits with
    | fresh early => simp at early
    | waited turning => simp at turning
    | @silent last _ _ _ least most passed =>
      have small := silence.small
      have planned := silence.planned
      rw [← plan, made, Option.some_inj] at planned
      simp only [Event.duration, made, Option.getD_some, planned] at moved
      rw [Nat.mod_eq_of_lt (by unfold UInt64.size; omega), now] at moved
      show Awaits interval delay step (some last) (.stalling remaining) later.clock.now
        machine.state.waitTime
      rw [reported]
      refine .silent least most ?_
      rw [Nat.succ_mul] at passed
      omega
  | rest phase =>
    rw [phase] at awaits
    cases awaits with
    | fresh early => simp at early
    | waited turning => simp at turning
    | @crashed last _ _ =>
      show Awaits interval delay step (some last) machine.phase world.clock.now _
      rw [phase]
      exact .crashed

end Awaits

/-! ### Steps and runs -/

namespace Machine

variable {machine : Machine} {world : World} {outcome : Outcome}

/-- With heartbeats enabled a step is an attempt exactly when it is taken in the loop. -/
theorem Transition.letter_eq_attempt_iff (transition : Transition machine world outcome)
    (enabled : machine.activeJitter ≠ none) :
    outcome.event.letter = .attempt ↔ machine.phase = .looping := by
  refine ⟨transition.looping_of_attempt, fun looping ↦ ?_⟩
  rw [(transition.isRound looping).letter]
  exact if_neg enabled

/-- A heartbeat that is delivered reports the wait time of its machine. -/
theorem Transition.waitTime_eq (transition : Transition machine world outcome) {payload : Payload}
    {waitTime nextWait : ℕ} (sent : outcome.event = .heartbeatSent payload waitTime nextWait) :
    waitTime = machine.state.waitTime := by
  cases transition with
  | @beat low high later phase enabled wait =>
    unfold Attempt.event at sent
    dsimp only at sent
    generalize (machine.attempt world low high).result = result at sent
    cases result with
    | ok count =>
      cases sent
      rfl
    | error error => cases sent
  | delay | idle | crash | fallSilent | goOn | endStall | keepSilent | rest => cases sent

end Machine

namespace Progress

/-- A machine of a make awaits an attempt. -/
structure Awaiting (made : Machine) (delay : Int64) (step : Span) (prior : Option Span)
    (progress : Progress) : Prop where
  same : SameMake made progress.machine
  awaits : Awaits made.config.interval delay step prior progress.machine.phase
    progress.world.clock.now progress.machine.state.waitTime

/-- The attempts of a run answer each other, and the first one answers the attempt before. -/
structure Answered (delay : Int64) (prior : Option Span) (attempts : List Sending) : Prop where
  first : ∀ sending ∈ attempts.head?, Answers delay sending.time sending.waitTime prior
  chain : attempts.IsChain Sending.Follows
  reports : ∀ sending ∈ attempts, sending.Reports

theorem Answered.nil (delay : Int64) (prior : Option Span) : Answered delay prior [] :=
  ⟨by simp, .nil, by simp⟩

theorem Answered.cons {delay : Int64} {prior : Option Span} {sending : Sending}
    {attempts : List Sending} (answers : Answers delay sending.time sending.waitTime prior)
    (reports : sending.Reports) (answered : Answered delay (some sending.time) attempts) :
    Answered delay prior (sending :: attempts) where
  first := by
    intro first found
    cases found
    exact answers
  chain := answered.chain.cons answered.first
  reports := by
    intro other member
    rcases List.mem_cons.mp member with rfl | later
    · exact reports
    · exact answered.reports other later

section Runs

variable {made : Machine} {delay : Int64} {step : Span} {prior : Option Span}

/-- Every run of a machine that awaits an attempt answers it, and each attempt that follows. -/
theorem Awaiting.answered (positive : 0 < made.config.interval.toInt)
    (bounded : made.config.interval.toInt ≤ 2147483648) (keeps : Keeps made made.config.interval)
    (plan : made.timing.stall = StallPlan.ofInterval made.config.interval)
    (silence : StallPlan.Silence made.config.interval step) {moves : List Move}
    (spares : ∀ each ∈ moves, each.sparesClock = true) {progress : Progress}
    (awaiting : Awaiting made delay step prior progress) :
    Answered delay prior (sendings moves progress) := by
  induction moves generalizing prior progress with
  | nil => exact .nil delay prior
  | cons first moves ih =>
    have later : ∀ each ∈ moves, each.sparesClock = true :=
      fun each member ↦ spares each (List.mem_cons_of_mem first member)
    cases first with
    | outside intervention =>
      obtain ⟨stream, unreachable, moved⟩ :=
        progress.move_outside_of_sparesClock (spares _ List.mem_cons_self)
      have undergone : progress.undergo intervention =
          .ok (progress.disturbed stream unreachable) := moved
      rw [sendings, undergone]
      exact ih later ⟨awaiting.same, awaiting.awaits⟩
    | step =>
      cases stepped : progress.machine.step progress.world with
      | error fault =>
        rw [sendings, stepped]
        exact .nil delay prior
      | ok outcome =>
        have transition := Machine.transition_of_step stepped
        have same := awaiting.same.trans transition.sameMake
        have range := awaiting.same.activeJitter_eq.trans keeps.range
        have stall := (congrArg Timing.stall awaiting.same.timing).trans plan
        have enabled : progress.machine.activeJitter ≠ none := by
          rw [range, Ne, Machine.jitterBounds_eq_none_iff, not_not]
          exact positive
        rw [sendings, stepped]
        dsimp only
        by_cases looping : progress.machine.phase = .looping
        · have attempt := (transition.letter_eq_attempt_iff enabled).mpr looping
          have waits := awaiting.awaits
          rw [looping] at waits
          rw [sendingOf, if_pos attempt, List.singleton_append]
          refine .cons (waits.answers silence) (fun _ _ _ sent ↦ transition.waitTime_eq sent) ?_
          exact ih later ⟨same, .of_looping positive bounded range transition looping⟩
        · have quiet : ¬ outcome.event.letter = .attempt :=
            fun attempt ↦ looping ((transition.letter_eq_attempt_iff enabled).mp attempt)
          rw [sendingOf, if_neg quiet, List.nil_append]
          exact ih later ⟨same,
            awaiting.awaits.of_ne_looping bounded silence stall transition looping⟩

/-- The attempts of a run are those among its events. -/
theorem map_event_sendings {moves : List Move} {progress last : Progress}
    (followed : progress.follow moves = .ok last) :
    (last.events.toList.map Stamped.event).filter (·.letter = .attempt) =
      (progress.events.toList.map Stamped.event).filter (·.letter = .attempt) ++
        (sendings moves progress).map Sending.event := by
  induction moves generalizing progress with
  | nil =>
    cases followed
    simp [sendings]
  | cons first moves ih =>
    rw [follow_cons, bind_eq_ok_iff] at followed
    obtain ⟨next, moved, rest⟩ := followed
    rw [ih rest]
    cases first with
    | outside intervention =>
      have undergone : progress.undergo intervention = .ok next := moved
      obtain ⟨world, -, rfl⟩ := map_eq_ok_iff.mp moved
      rw [sendings, undergone]
    | step =>
      obtain ⟨outcome, transition, rfl⟩ := move_step_eq_ok_iff.mp moved
      rw [sendings, transition.step_eq]
      by_cases attempt : outcome.event.letter = .attempt
      · simp [after, sendingOf, attempt]
      · simp [after, sendingOf, attempt]

/-- In an undisturbed run the wait time before the first attempt is the delay, and before every
other attempt it is the time since the attempt before, rounded half up to whole seconds. This holds
for all intervals from one second to 2^31 seconds, also if a whole stall lies between the attempts.
Delivered heartbeats report the wait time. -/
theorem isChain_sendings (config : Instance) (role : Role) (tap : Tap) (pid : UInt32)
    (world : World) (positive : 1 ≤ config.interval.toInt)
    (bounded : config.interval.toInt ≤ 2 ^ 31) {moves : List Move}
    (spares : ∀ each ∈ moves, each.sparesClock = true) {last : Progress}
    (followed : (fresh config role tap pid world).follow moves = .ok last) :
    (sendings moves (fresh config role tap pid world)).map Sending.event =
        (last.events.toList.map Stamped.event).filter (·.letter = .attempt) ∧
      (∀ sending ∈ (sendings moves (fresh config role tap pid world)).head?,
        (sending.waitTime : ℤ) = max config.delay.toInt 0) ∧
      (sendings moves (fresh config role tap pid world)).IsChain Sending.Follows ∧
      ∀ sending ∈ sendings moves (fresh config role tap pid world), sending.Reports := by
  have capped : config.interval.toInt ≤ 2147483648 := bounded
  obtain ⟨step, silence⟩ := StallPlan.exists_silence positive capped
  have awaiting : Awaiting (Machine.create config role tap pid world.clock) config.delay step none
      (fresh config role tap pid world) := ⟨SameMake.refl _, .fresh (.inl rfl)⟩
  have enabled : 0 < (Machine.create config role tap pid world.clock).config.interval.toInt :=
    positive
  have answered := awaiting.answered enabled capped
    (Machine.keeps_create config role tap pid world.clock) rfl silence spares
  refine ⟨?_, ?_, answered.chain, answered.reports⟩
  · rw [map_event_sendings followed]
    rfl
  · intro sending found
    have waited : sending.waitTime = config.delay.toInt.toNat := answered.first sending found
    omega

/-- With an interval of three seconds there are one hundred and eighty attempts up to the ceiling,
some of them in an outage, and one more after the stall. -/
theorem isChain_sendings_through_outage :
    (sendings ((Schedule.outage 3 8).moves 240)
      (fresh ⟨2, "idler", 0, 3, 12345⟩ .noHeartbeat ⟨12345, 0⟩ 1007 (World.ofSeed 7))).length =
        181 ∧
      (sendings ((Schedule.outage 3 8).moves 240)
        (fresh ⟨2, "idler", 0, 3, 12345⟩ .noHeartbeat ⟨12345, 0⟩ 1007
          (World.ofSeed 7))).IsChain Sending.Follows := by
  obtain ⟨last, followed⟩ := exists_silent_run
  obtain ⟨-, -, chain, -⟩ := isChain_sendings ⟨2, "idler", 0, 3, 12345⟩ .noHeartbeat ⟨12345, 0⟩ 1007
    (World.ofSeed 7) (by decide) (by decide) (Schedule.outage_sparesClock 3 8 |>.moves 240) followed
  have count : (sendings ((Schedule.outage 3 8).moves 240)
      (fresh ⟨2, "idler", 0, 3, 12345⟩ .noHeartbeat ⟨12345, 0⟩ 1007 (World.ofSeed 7))).length =
        181 := by
    decide +kernel
  exact ⟨count, chain⟩

end Runs

end Progress

end Heartbeat
