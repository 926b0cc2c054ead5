import Heartbeat.Proofs.TraceLanguage

/-!
# Runs that others interfere with

Between the steps of a machine anything may happen to its world: time passes, the clock is set
forwards or back, outages begin and end, and others draw from the keystream. None of it touches the
machine, so what every step keeps of a machine in any world holds after any moves
(`Machine.Lasting.follow`).

`Machine.Coherent` is such a property: past the loop the observation window has closed at the last
look at the clock, only a machine that falls silent stalls, for no more steps than its plan has, and
only a machine that crashes has crashed. It holds although the clock may be set back at any time,
because the elapsed time is noted at the look at the clock and at no other time
(`Machine.lasting_coherent`). `Progress.Lawful` joins to it what a machine was made with, what its
next step may do to the recorder, and that a crash is final; `Progress.lawful` is the statement for
every state that a machine can come to.
-/

set_option autoImplicit false
set_option relaxedAutoImplicit false

namespace Heartbeat

open Machine (SameMake Transition)

/-! ### What a step does to its world -/

namespace Machine

variable {machine : Machine} {world : World} {outcome : Outcome}

/-- A step that makes no attempt changes nothing of its world but the clock. -/
theorem Transition.world_eq (transition : Transition machine world outcome)
    (quiet : outcome.event.letter ≠ .attempt) :
    outcome.world = { world with clock := outcome.world.clock } := by
  cases transition with
  | delay phase wait | idle phase disabled wait | keepSilent phase silence wait =>
    obtain ⟨clock, -, rfl⟩ := World.advance_eq_ok_iff.mp wait
    rfl
  | beat phase enabled wait => exact absurd (Attempt.letter_event _ _ _) quiet
  | crash | fallSilent | goOn | endStall | rest => rfl

/-- Outside the loop a step leaves the recorder as it is. -/
theorem Transition.recorder_eq (transition : Transition machine world outcome)
    (elsewhere : machine.phase ≠ .looping) : outcome.world.recorder = world.recorder := by
  rw [transition.world_eq fun attempt ↦ elsewhere (transition.looping_of_attempt attempt)]

end Machine

/-! ### What any moves keep -/

namespace Progress

/-- What each of the moves keeps holds after all of them. -/
theorem holds_of_follow (holds : Progress → Prop) {moves : List Move}
    (kept : ∀ made ∈ moves, ∀ progress next, holds progress → progress.move made = .ok next →
      holds next)
    {first last : Progress} (now : holds first) (followed : first.follow moves = .ok last) :
    holds last := by
  induction moves generalizing first with
  | nil =>
    cases followed
    exact now
  | cons made moves ih =>
    rw [follow_cons, bind_eq_ok_iff] at followed
    obtain ⟨next, moved, rest⟩ := followed
    exact ih (fun other member ↦ kept other (List.mem_cons_of_mem made member))
      (kept made List.mem_cons_self first next now moved) rest

/-- What is done from outside touches nothing but the world. -/
theorem exists_world_of_move_outside {intervention : Intervention} {progress next : Progress}
    (moved : progress.move (.outside intervention) = .ok next) :
    ∃ world, progress.world.undergo intervention = .ok world ∧
      next = { progress with world := world } := by
  obtain ⟨world, undergone, rfl⟩ := map_eq_ok_iff.mp moved
  exact ⟨world, undergone, rfl⟩

/-- What every step keeps, whatever the world is, holds after any moves. -/
theorem Kept.follow {holds : Progress → Prop} (kept : Kept holds)
    (outside : ∀ progress world, holds progress → holds { progress with world := world })
    {moves : List Move} {first last : Progress} (now : holds first)
    (followed : first.follow moves = .ok last) : holds last := by
  refine holds_of_follow holds (fun made _ progress next held moved ↦ ?_) now followed
  cases made with
  | step =>
    obtain ⟨outcome, transition, rfl⟩ := move_step_eq_ok_iff.mp moved
    exact kept progress outcome held transition
  | outside intervention =>
    obtain ⟨world, -, rfl⟩ := exists_world_of_move_outside moved
    exact outside progress world held

end Progress

/-- A property of machines that every step keeps, in any world. -/
def Machine.Lasting (holds : Machine → Prop) : Prop :=
  ∀ (machine : Machine) (world : World) (outcome : Machine.Outcome), holds machine →
    Transition machine world outcome → holds outcome.machine

/-- A lasting property holds after any moves. -/
theorem Machine.Lasting.follow {holds : Machine → Prop} (lasting : Machine.Lasting holds)
    {moves : List Move} {progress last : Progress} (now : holds progress.machine)
    (followed : progress.follow moves = .ok last) : holds last.machine := by
  refine Progress.holds_of_follow (fun progress ↦ holds progress.machine)
    (fun made _ progress next holding moved ↦ ?_) now followed
  cases made with
  | step =>
    obtain ⟨outcome, transition, rfl⟩ := Progress.move_step_eq_ok_iff.mp moved
    exact lasting progress.machine progress.world outcome holding transition
  | outside intervention =>
    obtain ⟨world, -, rfl⟩ := Progress.exists_world_of_move_outside moved
    exact holding

theorem Machine.lasting_sameMake (made : Machine) : Lasting (SameMake made) :=
  fun _ _ _ same transition ↦ same.trans transition.sameMake

/-! ### Phases and the state -/

/-- The phases past the loop, in which the role has its say. -/
def Phase.isPastLoop : Phase → Bool
  | .initialDelay | .looping => false
  | .ceiling | .stalling _ | .crashed => true

namespace Machine

/-- The phase of a machine agrees with its role, its stall plan and the time at its last look at the
clock. -/
structure Coherent (machine : Machine) : Prop where
  closed : machine.phase.isPastLoop = true → machine.timing.maxRuntime ≤ machine.state.elapsed
  silent : ∀ remaining, machine.phase = .stalling remaining →
    machine.role = .noHeartbeat ∧ remaining ≤ machine.timing.stall.repeats
  crashed : machine.phase = .crashed → machine.role = .crash

/-- Up to the loop a machine is coherent, whatever it has noted. -/
theorem Coherent.of_early {machine : Machine} (early : machine.phase.isPastLoop = false) :
    Coherent machine where
  closed past := by
    rw [early] at past
    cases past
  silent remaining stalling := by
    rw [stalling] at early
    cases early
  crashed crashed := by
    rw [crashed] at early
    cases early

/-- The look at the clock after a round leaves a machine in the loop, or at the ceiling with the
window closed. -/
theorem coherent_checkCeiling {machine : Machine} (looping : machine.phase = .looping)
    (time : Clock) : Coherent (machine.checkCeiling time) := by
  by_cases passed : machine.timing.maxRuntime ≤ time.now - machine.state.startTime
  · have ceiling : (machine.checkCeiling time).phase = .ceiling := if_pos passed
    exact ⟨fun _ ↦ passed, by simp [ceiling], by simp [ceiling]⟩
  · have still : (machine.checkCeiling time).phase = machine.phase := if_neg passed
    refine .of_early ?_
    rw [still, looping]
    rfl

/-- Every step leaves a coherent machine coherent, whatever the clock shows. -/
theorem lasting_coherent : Lasting Coherent := by
  intro machine world outcome coherent transition
  cases transition with
  | delay | goOn | endStall => exact .of_early rfl
  | idle phase | beat phase =>
    apply coherent_checkCeiling
    exact phase
  | crash phase role =>
    have closed := coherent.closed (by rw [phase]; rfl)
    exact ⟨fun _ ↦ closed, fun _ stalling ↦ absurd stalling (by simp), fun _ ↦ role⟩
  | fallSilent phase role =>
    have closed := coherent.closed (by rw [phase]; rfl)
    constructor
    case closed => exact fun _ ↦ closed
    case silent =>
      intro remaining stalling
      cases stalling
      exact ⟨role, Nat.le_refl _⟩
    case crashed =>
      intro crashed
      cases crashed
  | keepSilent phase =>
    have closed := coherent.closed (by rw [phase]; rfl)
    obtain ⟨role, few⟩ := coherent.silent _ phase
    constructor
    case closed => exact fun _ ↦ closed
    case silent =>
      intro remaining stalling
      cases stalling
      exact ⟨role, Nat.le_of_succ_le few⟩
    case crashed =>
      intro crashed
      cases crashed
  | rest => exact coherent

end Machine

namespace Progress

/-! ### The first step and a crash -/

/-- A machine waits for its initial delay until its first step, and never again. -/
theorem phase_eq_initialDelay_iff {moves : List Move} {first last : Progress}
    (followed : first.follow moves = .ok last) :
    last.machine.phase = .initialDelay ↔
      first.machine.phase = .initialDelay ∧ Move.step ∉ moves := by
  induction moves generalizing first with
  | nil =>
    cases followed
    simp
  | cons made moves ih =>
    rw [follow_cons, bind_eq_ok_iff] at followed
    obtain ⟨next, moved, rest⟩ := followed
    rw [ih rest]
    cases made with
    | step =>
      obtain ⟨outcome, transition, rfl⟩ := move_step_eq_ok_iff.mp moved
      have started := transition.phase_ne_initialDelay
      simp [after, started]
    | outside intervention =>
      obtain ⟨world, -, rfl⟩ := exists_world_of_move_outside moved
      simp

/-- Once a machine has crashed, it stays as it is and says nothing more, whatever is done to its
world. -/
theorem eq_of_follow_of_crashed {moves : List Move} {first last : Progress}
    (crashed : first.machine.phase = .crashed) (followed : first.follow moves = .ok last) :
    last.machine = first.machine ∧ last.notices = first.notices := by
  refine holds_of_follow (fun later ↦ later.machine = first.machine ∧
    later.notices = first.notices) (fun made _ progress next same moved ↦ ?_) ⟨rfl, rfl⟩ followed
  obtain ⟨machine, notices⟩ := same
  cases made with
  | step =>
    rw [← machine] at crashed
    have rests := @Machine.step_of_crashed progress.machine progress.world crashed
    unfold move at moved
    rw [rests] at moved
    cases moved
    exact ⟨machine, notices⟩
  | outside intervention =>
    obtain ⟨world, -, rfl⟩ := exists_world_of_move_outside moved
    exact ⟨machine, notices⟩

/-! ### Every state that can be reached -/

/-- What is true of the machine of an instance and of its next step after any moves. -/
structure Lawful (config : Instance) (role : Role) (pid : UInt32) (moves : List Move)
    (progress : Progress) : Prop where
  config_eq : progress.machine.config = config
  role_eq : progress.machine.role = role
  timing_eq : progress.machine.timing = Timing.ofInstance config
  pid_eq : progress.machine.state.pid = pid
  enabled_iff : progress.machine.state.heartbeatEnabled = true ↔ 0 < config.interval.toInt
  closed : progress.machine.phase.isPastLoop = true →
    progress.machine.timing.maxRuntime ≤ progress.machine.state.elapsed
  silent : ∀ remaining, progress.machine.phase = .stalling remaining →
    role = .noHeartbeat ∧ remaining ≤ (StallPlan.ofInterval config.interval).repeats
  crashed : progress.machine.phase = .crashed → role = .crash
  delaying_iff : progress.machine.phase = .initialDelay ↔ Move.step ∉ moves
  -- An attempt to send is counted in any case, so this says that there was none.
  unsent : ∀ outcome, progress.machine.step progress.world = .ok outcome →
    progress.machine.phase ≠ .looping → outcome.world.recorder = progress.world.recorder
  rests : progress.machine.phase = .crashed → progress.machine.step progress.world =
    .ok ⟨progress.machine, progress.world, .crashed, none⟩
  final : progress.machine.phase = .crashed → ∀ more later, progress.follow more = .ok later →
    later.machine = progress.machine ∧ later.notices = progress.notices

/-- Every state that the machine of an instance comes to is lawful, however its steps are mixed with
what others do to its world. The machine may show its name in any colours. -/
theorem lawful (config : Instance) (role : Role) (tap : Tap) (pid : UInt32) (world : World)
    (palette : Palette) {moves : List Move} {last : Progress}
    (followed : (start ((Machine.create config role tap pid world.clock).withPalette palette)
      world).follow moves = .ok last) :
    Lawful config role pid moves last := by
  have same := (Machine.lasting_sameMake _).follow (SameMake.refl _) followed
  have coherent := Machine.lasting_coherent.follow (.of_early rfl) followed
  have acts : last.machine.role = role := same.role
  have times : last.machine.timing = Timing.ofInstance config := same.timing
  constructor
  case config_eq => exact same.config
  case role_eq => exact acts
  case timing_eq => exact times
  case pid_eq => exact same.pid
  case enabled_iff =>
    rw [same.heartbeatEnabled]
    exact decide_eq_true_iff
  case closed => exact coherent.closed
  case silent =>
    intro remaining stalling
    obtain ⟨falls, few⟩ := coherent.silent remaining stalling
    rw [times] at few
    exact ⟨acts.symm.trans falls, few⟩
  case crashed => exact fun crashed ↦ acts.symm.trans (coherent.crashed crashed)
  case delaying_iff =>
    rw [phase_eq_initialDelay_iff followed]
    exact and_iff_right rfl
  case unsent =>
    intro outcome stepped elsewhere
    exact (Machine.transition_of_step stepped).recorder_eq elsewhere
  case rests => exact Machine.step_of_crashed
  case final => exact fun crashed more later ↦ eq_of_follow_of_crashed crashed

/-- A machine that falls silent: after its ceiling the clock is set back to the start, in the middle
of an outage, and the stall goes on. -/
theorem lawful_after_setback : ∃ moves last,
    moves = [.step, .outside (.advance (Span.ofSeconds 200)), .step, .outside (.setTime Clock.start),
      .outside (.setUnreachable true), .step, .outside (.draw 1 6), .step] ∧
    (start ((Machine.create ⟨1, "worker", 2, 30, 12345⟩ .noHeartbeat ⟨12345, 0⟩ 1007
      Clock.start).withPalette (.ofIndex 1)) (World.ofSeed 7)).follow moves = .ok last ∧
    last.machine.phase = .stalling 47 ∧ last.world.clock.now = Span.ofMillis 3100 ∧
    Lawful ⟨1, "worker", 2, 30, 12345⟩ .noHeartbeat 1007 moves last := by
  have shown : ((start ((Machine.create ⟨1, "worker", 2, 30, 12345⟩ .noHeartbeat ⟨12345, 0⟩ 1007
      Clock.start).withPalette (.ofIndex 1)) (World.ofSeed 7)).follow
        [.step, .outside (.advance (Span.ofSeconds 200)), .step, .outside (.setTime Clock.start),
          .outside (.setUnreachable true), .step, .outside (.draw 1 6), .step]).map
      (fun last ↦ (last.machine.phase, last.world.clock.now)) =
        .ok (.stalling 47, Span.ofMillis 3100) := by
    decide +kernel
  obtain ⟨last, followed, found⟩ := map_eq_ok_iff.mp shown
  obtain ⟨phase, time⟩ := Prod.mk.inj found
  exact ⟨_, last, rfl, followed, phase, time, lawful ⟨1, "worker", 2, 30, 12345⟩ .noHeartbeat
    ⟨12345, 0⟩ 1007 (World.ofSeed 7) (.ofIndex 1) followed⟩

end Progress

end Heartbeat
