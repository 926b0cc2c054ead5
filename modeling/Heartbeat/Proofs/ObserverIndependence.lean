import Heartbeat.Proofs.OutageIndependence

/-!
# Names, ports and colours do not disturb a run

The index and the name of an instance, the port of its watchdog and the colours of its name are its
`Title`. A title is there for those who watch a run: it is shown in log lines, and the port stands
in the error of an attempt that fails. `Progress.entitled` gives a run another title, in the machine
and in all that has been told about it, and leaves the world as it is. A step and a change of the
title can be done in either order (`Machine.step_entitled`), and so can any moves
(`Progress.follow_entitled`).

Two runs with different titles are therefore one run told in two ways. They have the same clock,
keystream, recorder, phase and state after any moves, and the same events up to the port in the
errors of failed attempts (`Progress.follow_titled_alike`).
-/

set_option autoImplicit false
set_option relaxedAutoImplicit false

namespace Heartbeat

/-! ### Titles -/

/-- What those who watch a run see of its instance and what its schedule does not depend on: the
index and the name, the port of the watchdog, and the colours of the name, if it has any. -/
structure Title where
  index : UInt32
  name : String
  port : UInt16
  palette : Option Palette

namespace Title

/-- The name in log lines. -/
def label (title : Title) : String :=
  title.palette.elim title.name fun palette ↦ palette.paint title.name

/-- Where the heartbeats are sent to. -/
def destination (title : Title) : String :=
  Tap.destination ⟨title.port, 0⟩

/-- The error of an attempt that fails. -/
def refusal (title : Title) : EnvironmentError :=
  Tap.refusal ⟨title.port, 0⟩

end Title

/-- A tap at another port delivers and drops the same attempts and keeps the same record. Its own
error takes the place of the error of the other. -/
theorem Tap.send_eq_of_port (tap : Tap) (port : UInt16) (recorder : Recorder) (time : Clock)
    (bytes : List UInt8) :
    ({ tap with port := port } : Tap).send recorder time bytes =
      Prod.map (Except.mapError fun _ ↦ ({ tap with port := port } : Tap).refusal) id
        (tap.send recorder time bytes) := by
  unfold send
  dsimp only
  rw [apply_ite (Prod.map _ id)]
  rfl

/-- An event as it is told of a machine with a title. -/
def Event.entitled (title : Title) : Event → Event
  | .sendFailed _ nextWait => .sendFailed title.refusal nextWait
  | event => event

/-- A notice as it is given by a machine with a title. -/
def Notice.entitled (title : Title) : Notice → Notice
  | .delivered _ payload waitTime => .delivered title.destination payload waitTime
  | .refused _ _ => .refused title.destination title.refusal
  | notice => notice

/-- A title changes the text of a notice and not its level. -/
theorem Notice.level_entitled (title : Title) (notice : Notice) :
    (notice.entitled title).level = notice.level := by
  cases notice <;> rfl

namespace Machine

/-- A machine that has just been made for an instance with a title, with colours if the title has
any. -/
def titled (title : Title) (delay interval : Int64) (role : Role) (failEvery : UInt64)
    (pid : UInt32) (time : Clock) : Machine :=
  let machine := create ⟨title.index, title.name, delay, interval, title.port⟩ role
    ⟨title.port, failEvery⟩ pid time
  title.palette.elim machine machine.withPalette

/-- A machine with another title. -/
def entitled (title : Title) (machine : Machine) : Machine :=
  { machine with
    config := { machine.config with
      index := title.index
      name := title.name
      port := title.port }
    tap := { machine.tap with port := title.port }
    label := title.label }

/-- An outcome with another title. -/
def Outcome.entitled (title : Title) (outcome : Outcome) : Outcome where
  machine := outcome.machine.entitled title
  world := outcome.world
  event := outcome.event.entitled title
  notice := outcome.notice.map (Notice.entitled title)

/-! ### One step -/

variable (title : Title) (machine : Machine) (world : World)

/-- The title of a new machine can be changed to any other. -/
theorem entitled_titled (other : Title) (delay interval : Int64) (role : Role)
    (failEvery : UInt64) (pid : UInt32) (time : Clock) :
    (titled other delay interval role failEvery pid time).entitled title =
      titled title delay interval role failEvery pid time := by
  obtain ⟨index, name, port, palette⟩ := title
  obtain ⟨otherIndex, otherName, otherPort, otherPalette⟩ := other
  cases palette <;> cases otherPalette <;> rfl

theorem phase_entitled : (machine.entitled title).phase = machine.phase := rfl

/-- An attempt with another error in the place of its own. -/
def Attempt.entitled (title : Title) (attempt : Attempt) : Attempt :=
  { attempt with result := attempt.result.mapError fun _ ↦ title.refusal }

theorem Attempt.event_entitled (attempt : Attempt) (payload : Payload) (waitTime : ℕ) :
    (attempt.entitled title).event payload waitTime =
      (attempt.event payload waitTime).entitled title := by
  unfold Attempt.event Attempt.entitled
  cases attempt.result <;> rfl

theorem Attempt.notice_entitled (attempt : Attempt) (payload : Payload) (waitTime : ℕ)
    (destination : String) :
    (attempt.entitled title).notice payload waitTime title.destination =
      (attempt.notice payload waitTime destination).entitled title := by
  unfold Attempt.notice Attempt.entitled
  cases attempt.result <;> rfl

/-- An attempt of a machine with another title is the same attempt; if it fails, then with the
error of the other title. -/
theorem attempt_entitled (low high : UInt64) :
    (machine.entitled title).attempt world low high =
      (machine.attempt world low high).entitled title := by
  have sent : (machine.entitled title).tap.send world.recorder world.clock
      (machine.entitled title).payload.bytes = Prod.map (Except.mapError fun _ ↦ title.refusal) id
        (machine.tap.send world.recorder world.clock machine.payload.bytes) :=
    machine.tap.send_eq_of_port title.port world.recorder world.clock machine.payload.bytes
  unfold attempt World.send
  dsimp only
  rw [sent]
  rfl

/-- A step of a machine with another title is the same step, told with that title. -/
theorem step_entitled :
    (machine.entitled title).step world = (machine.step world).map (Outcome.entitled title) := by
  cases phase : machine.phase with
  | initialDelay =>
    have other : (machine.entitled title).phase = .initialDelay := phase
    rw [step_of_initialDelay phase, step_of_initialDelay other, map_twice]
    refine congrArg (Except.map · _) (funext fun later ↦ ?_)
    unfold Outcome.entitled
    rw [Option.map_map]
    rfl
  | looping =>
    have other : (machine.entitled title).phase = .looping := phase
    cases active : machine.activeJitter with
    | none =>
      rw [step_of_idle phase active, step_of_idle other active, map_twice]
      rfl
    | some range =>
      obtain ⟨low, high⟩ := range
      rw [step_of_beat phase active, step_of_beat other active, attempt_entitled, map_twice]
      refine congrArg (Except.map · _) (funext fun later ↦ ?_)
      unfold Outcome.entitled
      rw [Option.map_some, ← Attempt.event_entitled, ← Attempt.notice_entitled]
      rfl
  | ceiling =>
    have other : (machine.entitled title).phase = .ceiling := phase
    rw [step_of_ceiling phase, step_of_ceiling other]
    obtain ⟨config, role, timing, tap, label, state, phase, ceilingNoted⟩ := machine
    refine congrArg Except.ok ?_
    unfold applyRole Outcome.entitled
    cases role with
    | crash | noHeartbeat => rfl
    | unrecognized name => cases ceilingNoted <;> rfl
  | stalling remaining =>
    unfold step
    rw [phase_entitled, phase]
    cases remaining with
    | zero =>
      dsimp only
      unfold endStall
      change (spanOf machine.timing.stall.window?).bind _ =
        ((spanOf machine.timing.stall.window?).bind _).map _
      cases spanOf machine.timing.stall.window? <;> rfl
    | succ remaining =>
      dsimp only
      unfold keepSilent
      change (spanOf machine.timing.stall.step?).bind _ =
        ((spanOf machine.timing.stall.step?).bind _).map _
      cases spanOf machine.timing.stall.step? with
      | error fault => rfl
      | ok span =>
        change (world.advance span).bind _ = ((world.advance span).bind _).map _
        cases world.advance span <;> rfl
  | crashed =>
    have other : (machine.entitled title).phase = .crashed := phase
    rw [step_of_crashed phase, step_of_crashed other]
    rfl

end Machine

/-! ### Runs -/

/-- A stamped event as it is told of a machine with a title. -/
def Stamped.entitled (title : Title) (stamped : Stamped) : Stamped :=
  { stamped with event := stamped.event.entitled title }

namespace Progress

/-- A run with another title, told with that title from the start. -/
def entitled (title : Title) (progress : Progress) : Progress where
  machine := progress.machine.entitled title
  world := progress.world
  events := progress.events.map (Stamped.entitled title)
  notices := progress.notices.map (Notice.entitled title)

variable (title : Title)

theorem entitled_start (machine : Machine) (world : World) :
    (start machine world).entitled title = start (machine.entitled title) world := by
  simp [start, entitled]

theorem after_entitled (events : Array Stamped) (notices : Array Notice)
    (outcome : Machine.Outcome) :
    after (events.map (Stamped.entitled title)) (notices.map (Notice.entitled title))
        (outcome.entitled title) = (after events notices outcome).entitled title := by
  obtain ⟨machine, world, event, notice⟩ := outcome
  unfold after Machine.Outcome.entitled Progress.entitled
  cases notice with
  | none => simp [Stamped.entitled]
  | some notice => simp [Stamped.entitled]

/-- A move in a run with another title is the same move. -/
theorem move_entitled (made : Move) (progress : Progress) :
    (progress.entitled title).move made = (progress.move made).map (entitled title) := by
  cases made with
  | step =>
    change ((progress.machine.entitled title).step progress.world).map _ = Except.map _ (.map _ _)
    rw [Machine.step_entitled, map_twice, map_twice]
    exact congrArg (Except.map · _) (funext fun outcome ↦ after_entitled title _ _ outcome)
  | outside intervention =>
    change (progress.world.undergo intervention).map _ = Except.map _ (.map _ _)
    rw [map_twice]
    rfl

/-- Whatever the moves are, the run with another title is the same run. -/
theorem follow_entitled (moves : List Move) (progress : Progress) :
    (progress.entitled title).follow moves = (progress.follow moves).map (entitled title) := by
  induction moves generalizing progress with
  | nil => rfl
  | cons made moves ih =>
    rw [follow_cons, follow_cons, move_entitled]
    cases progress.move made with
    | error fault => rfl
    | ok next => exact ih next

end Progress

/-! ### Two titles -/

/-- Two events that are the same, except that the error of an attempt that failed is the refusal of
either tap: the texts of the two differ in the port and in nothing else. -/
inductive Event.Readdressed (here there : Tap) : Event → Event → Prop
  | same (event : Event) : Readdressed here there event event
  | refused (nextWait : ℕ) : Readdressed here there (.sendFailed here.refusal nextWait)
      (.sendFailed there.refusal nextWait)

/-- Two runs that those who watch can tell apart by the title of the machine, by the port in the
errors of attempts that failed, and by the texts in the log, but by nothing else. -/
structure Progress.Readdressed (here there : Tap) (left right : Progress) : Prop where
  world : right.world = left.world
  role : right.machine.role = left.machine.role
  timing : right.machine.timing = left.machine.timing
  state : right.machine.state = left.machine.state
  phase : right.machine.phase = left.machine.phase
  ceilingNoted : right.machine.ceilingNoted = left.machine.ceilingNoted
  events : List.Forall₂
    (fun first second ↦ first.time = second.time ∧ first.event.Readdressed here there second.event)
    left.events.toList right.events.toList
  levels : right.notices.map Notice.level = left.notices.map Notice.level

namespace Progress

theorem readdressed_entitled (here there : Title) (failEvery : UInt64) (progress : Progress) :
    Readdressed ⟨here.port, failEvery⟩ ⟨there.port, failEvery⟩ (progress.entitled here)
      (progress.entitled there) := by
  refine ⟨rfl, rfl, rfl, rfl, rfl, rfl, ?events, ?levels⟩
  case events =>
    unfold entitled
    rw [Array.toList_map, Array.toList_map, List.forall₂_map_left_iff, List.forall₂_map_right_iff,
      List.forall₂_same]
    rintro ⟨time, event⟩ -
    refine ⟨rfl, ?_⟩
    cases event with
    | sendFailed error nextWait => exact .refused nextWait
    | initialDelay | heartbeatSent | idle | ceilingReached | stalled | stallFinished | crashed =>
      exact .same _
  case levels =>
    have level (title : Title) : Notice.level ∘ Notice.entitled title = Notice.level :=
      funext (Notice.level_entitled title)
    unfold entitled
    rw [Array.map_map, Array.map_map, level, level]

/-- Those who watch a run do not influence it. Two instances with the same delay and interval and
with any two titles, in the same role, with the same failures of their taps and from the same world
on, come after any moves to the same world, that is the same clock, keystream and recorder, with
the same state and phase, and what they did is the same at the same times up to the port in the
errors; or both end with the same fault. -/
theorem follow_titled_alike (here there : Title) (delay interval : Int64) (role : Role)
    (failEvery : UInt64) (pid : UInt32) (world : World) (moves : List Move) :
    Matching (Readdressed ⟨here.port, failEvery⟩ ⟨there.port, failEvery⟩)
      ((start (Machine.titled here delay interval role failEvery pid world.clock) world).follow
        moves)
      ((start (Machine.titled there delay interval role failEvery pid world.clock) world).follow
        moves) := by
  have either (title : Title) :
      start (Machine.titled title delay interval role failEvery pid world.clock) world =
        (start (Machine.titled here delay interval role failEvery pid world.clock) world).entitled
          title := by
    rw [entitled_start, Machine.entitled_titled]
  rw [either there]
  nth_rewrite 1 [either here]
  rw [follow_entitled, follow_entitled]
  refine (Matching.refl _).map ?_
  rintro progress - rfl
  exact readdressed_entitled here there failEvery progress

end Progress

end Heartbeat
