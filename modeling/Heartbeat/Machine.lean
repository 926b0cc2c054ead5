import Heartbeat.Palette
import Heartbeat.Payload
import Heartbeat.Role
import Heartbeat.Timing
import Heartbeat.World
import Heartbeat.Log
import Heartbeat.Text.Quoted

/-!
# The machine

A `Machine` is a running instance. It waits for its initial delay, then beats in a loop: an attempt
to send, a jittered wait, and a look at the clock. Once the observation window has passed it does
what its role says: it stops for good (`Phase.crashed`), falls silent for the steps of its stall
plan (`Phase.stalling`), or goes on as before. After a stall it returns to the loop.

`Machine.step` makes one transition in a world and says what happened: an `Event`, at most one
`Notice` for the log, and the machine and the world afterwards. A step fails only by a `Fault`.
Attempts that fail change nothing but the event and the notice.
-/

set_option autoImplicit false
set_option relaxedAutoImplicit false

namespace Heartbeat

open Heartbeat.Text

/-- The wait of one round of the loop while heartbeats are disabled. -/
def idleWait : Span := Span.ofSeconds 1

/-- The wait in the place of a jittered wait of no seconds. -/
def shortestWait : Span := Span.ofMillis 1

/-! ### State, events and notices -/

/-- Where a machine stands. -/
inductive Phase
  | initialDelay
  | looping
  | ceiling
  | stalling (remaining : Nat)
  | crashed
deriving DecidableEq

/-- The part of a machine that changes from round to round. `startTime` is the time at which the
loop started, `elapsed` the time since then at the last look at the clock. -/
structure RunState where
  pid : UInt32
  waitTime : Nat
  startTime : Span
  elapsed : Span
  heartbeatEnabled : Bool
deriving DecidableEq

/-- What one step did. -/
inductive Event
  | initialDelay (slept : Span)
  | heartbeatSent (payload : Payload) (waitTime nextWait : Nat)
  | sendFailed (error : EnvironmentError) (nextWait : Nat)
  | idle
  | ceilingReached (elapsed : Span) (role : Role)
  | stalled (remaining : Nat)
  | stallFinished
  | crashed
deriving DecidableEq

/-- What is worth saying while a machine runs. -/
inductive Notice
  | started (name : String) (maxRuntime : Span) (heartbeatEnabled : Bool) (role : Role)
  | waiting (slept : Span)
  | delivered (destination : String) (payload : Payload) (waitTime : Nat)
  | refused (destination : String) (error : EnvironmentError)
  | stopped (elapsed : Span)
  | stalling (plan : StallPlan)
  | noAction (roleName : String)
  | silent
  | resuming
deriving DecidableEq

/-- A machine: what it was made with, and its state. `label` is its name as the log shows it, and
`ceilingNoted` whether it has reached the ceiling and gone on. -/
structure Machine where
  config : Instance
  role : Role
  timing : Timing
  tap : Tap
  label : String
  state : RunState
  phase : Phase
  ceilingNoted : Bool
deriving DecidableEq

namespace Notice

/-- The level of a notice. -/
def level : Notice → Level
  | .refused _ _ | .noAction _ => .warning
  | .resuming => .debug
  | _ => .info

/-- The text of a notice for a machine with a label. -/
def text (label : String) : Notice → String
  | .started name maxRuntime heartbeatEnabled role =>
    name ++ ": max runtime " ++ toString maxRuntime.seconds ++ "s, heartbeats "
      ++ (if heartbeatEnabled then "enabled" else "disabled") ++ ", role " ++ role.name
  | .waiting slept =>
    label ++ " Waiting " ++ toString slept.seconds ++ " seconds heartbeat_delay..."
  | .delivered destination payload waitTime =>
    label ++ " Heartbeat sent to " ++ destination ++ ": " ++ payload.text ++ " after "
      ++ toString waitTime ++ " seconds"
  | .refused destination error =>
    label ++ " Heartbeat to " ++ destination ++ " failed: " ++ error.message
  | .stopped elapsed => label ++ " Program stopped after " ++ toString elapsed.seconds ++ "s"
  | .stalling plan =>
    label ++ " Stalling: " ++ toString plan.repeats ++ " x " ++ Binary64.tenths plan.interval
      ++ "s without heartbeats"
  | .noAction roleName =>
    label ++ " Role " ++ quoted roleName ++ " has no ceiling action, continuing"
  | .silent => label ++ " No more heartbeats"
  | .resuming => label ++ " Stall window over, resuming"

/-- A notice as a log entry. -/
def entry (label : String) (notice : Notice) : LogEntry :=
  ⟨notice.level, .machine, notice.text label⟩

end Notice

/-! ### Making a machine -/

namespace Machine

/-- The machine of an instance, made at a time, for the process with an id. -/
def create (config : Instance) (role : Role) (tap : Tap) (pid : UInt32) (time : Clock) : Machine :=
  let timing := Timing.ofInstance config
  { config := config
    role := role
    timing := timing
    tap := tap
    label := config.name
    state :=
      { pid := pid
        waitTime := timing.initialWaitTime
        startTime := time.now
        elapsed := Span.zero
        heartbeatEnabled := timing.heartbeatEnabled }
    phase := .initialDelay
    ceilingNoted := false }

/-- What is said when a machine is made. -/
def creation (machine : Machine) : Notice :=
  .started machine.config.name machine.timing.maxRuntime machine.timing.heartbeatEnabled
    machine.role

/-- The machine with its name in the colours of a palette. -/
def withPalette (machine : Machine) (palette : Palette) : Machine :=
  { machine with label := palette.paint machine.config.name }

/-! ### Steps -/

/-- What one step gives: the machine and the world afterwards, what happened, and what is said. -/
structure Outcome where
  machine : Machine
  world : World
  event : Event
  notice : Option Notice

/-- The wait for the initial delay. The time of the loop starts after it. -/
def waitForDelay (machine : Machine) (world : World) : Except Fault Outcome := do
  let slept := machine.timing.initialSleep.getD Span.zero
  let world ← match machine.timing.initialSleep with
    | some span => world.advance span
    | none => .ok world
  return {
    machine := { machine with
      state := { machine.state with startTime := world.clock.now }
      phase := .looping }
    world := world
    event := .initialDelay slept
    notice := machine.timing.initialSleep.map .waiting }

/-- The range of the jittered wait while heartbeats are enabled. -/
def activeJitter (machine : Machine) : Option (UInt64 × UInt64) :=
  machine.timing.jitter.filter fun _ ↦ machine.state.heartbeatEnabled

/-- A wait of whole seconds, or the shortest wait for no seconds. -/
def loopWait (seconds : Nat) : Span :=
  if 0 < seconds then Span.ofSeconds seconds else shortestWait

/-- One round of the loop without the look at the clock: an attempt to send, a draw and a wait, or
an idle wait without heartbeats. -/
def beat (machine : Machine) (world : World) : Except Fault Outcome :=
  match machine.activeJitter with
  | none => (world.advance idleWait).map fun world ↦ ⟨machine, world, .idle, none⟩
  | some (low, high) =>
    let payload : Payload := ⟨machine.state.pid⟩
    let (result, world) := world.send machine.tap payload.bytes
    let (drawn, world) := world.draw low high
    let nextWait := drawn.toNat
    let waitTime := machine.state.waitTime
    let (event, notice) : Event × Notice := match result with
      | .ok _ =>
        (.heartbeatSent payload waitTime nextWait,
          .delivered machine.tap.destination payload waitTime)
      | .error error => (.sendFailed error nextWait, .refused machine.tap.destination error)
    (world.advance (loopWait nextWait)).map fun world ↦
      { machine := { machine with state := { machine.state with waitTime := nextWait } }
        world := world
        event := event
        notice := some notice }

/-- The look at the clock: the ceiling is reached once the time since the start of the loop is as
long as the observation window. A clock that was set back shows no time since the start. -/
def checkCeiling (machine : Machine) (time : Clock) : Machine :=
  let elapsed := time.now - machine.state.startTime
  { machine with
    state := { machine.state with elapsed := elapsed }
    phase := if machine.timing.maxRuntime ≤ elapsed then .ceiling else machine.phase }

/-- One round of the loop. -/
def loop (machine : Machine) (world : World) : Except Fault Outcome :=
  (machine.beat world).map fun outcome ↦
    { outcome with machine := outcome.machine.checkCeiling outcome.world.clock }

/-- What the role does at the ceiling. It takes no time. -/
def applyRole (machine : Machine) (world : World) : Outcome :=
  let elapsed := machine.state.elapsed
  match machine.role with
  | .crash => ⟨{ machine with phase := .crashed }, world, .crashed, some (.stopped elapsed)⟩
  | .noHeartbeat =>
    { machine := { machine with
        phase := .stalling machine.timing.stall.repeats
        ceilingNoted := true }
      world := world
      event := .ceilingReached elapsed machine.role
      notice := some (.stalling machine.timing.stall) }
  | .unrecognized name =>
    { machine := { machine with phase := .looping, ceilingNoted := true }
      world := world
      event := .ceilingReached elapsed machine.role
      notice := if machine.ceilingNoted then none else some (.noAction name) }

/-- A span of a stall plan, or the fault that there is none. -/
def spanOf (span : Option Span) : Except Fault Span :=
  match span with
  | some span => .ok span
  | none => .error .spanOutOfRange

/-- The end of a stall. The next heartbeat reports the last wait and the whole stall, in seconds. -/
def endStall (machine : Machine) (world : World) : Except Fault Outcome := do
  let window ← spanOf machine.timing.stall.window?
  let silence := Binary64.roundHalfUp window.number
  return {
    machine := { machine with
      state := { machine.state with waitTime := min (machine.state.waitTime + silence) maxCounter }
      phase := .looping }
    world := world
    event := .stallFinished
    notice := some .resuming }

/-- One step of a stall. -/
def keepSilent (machine : Machine) (world : World) (remaining : Nat) : Except Fault Outcome := do
  let span ← spanOf machine.timing.stall.step?
  let world ← world.advance span
  return {
    machine := { machine with phase := .stalling remaining }
    world := world
    event := .stalled remaining
    notice := some .silent }

/-- One transition. A machine that has crashed stays as it is. -/
def step (machine : Machine) (world : World) : Except Fault Outcome :=
  match machine.phase with
  | .initialDelay => machine.waitForDelay world
  | .looping => machine.loop world
  | .ceiling => .ok (machine.applyRole world)
  | .stalling 0 => machine.endStall world
  | .stalling (remaining + 1) => machine.keepSilent world remaining
  | .crashed => .ok ⟨machine, world, .crashed, none⟩

end Machine

/-- The exit status of a process whose machine has crashed. -/
def crashStatus : Nat := 0

end Heartbeat
