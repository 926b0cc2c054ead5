import Heartbeat.Instance.Resolution
import Heartbeat.Progress
import Heartbeat.Settings.Store

/-!
# Traces

`Drive.run` makes a machine for an instance of some settings in a fresh world and lets it step
until it crashes or the clock reaches the horizon. What was observed is a `Trace`: every event with
the time after its step, and what the recorder holds at the end. A guard on the number of steps
ends the run of a machine that does not move the clock.
-/

set_option autoImplicit false
set_option relaxedAutoImplicit false

namespace Heartbeat

open Heartbeat.Settings

/-- The horizon of a run in seconds, unless another one is given. -/
def defaultHorizon : Rat := 900

/-- The greatest number of steps of a run. -/
def maxSteps : Nat := 1000000

/-- What was observed in a run. -/
structure Trace where
  events : Array Stamped
  recorder : Recorder
  pid : UInt32
  maxRuntime : Span

/-! ### Running -/

/-- A run: the seed of its world, its horizon, the settings, the index and the role of the instance,
and which attempts to send fail. -/
structure Drive where
  seed : UInt64
  horizon : Span
  settings : String
  index : UInt32
  role : Role
  failEvery : UInt64

/-- What was said while the settings were read, and the progress of the machine or the error that
kept it from being made. -/
structure Driven where
  notices : List LoadNotice
  outcome : Except ConfigError Progress

namespace Drive

/-- The machine of an instance in the world of the run. -/
def machine (drive : Drive) (config : Instance) : Machine :=
  Machine.create config drive.role ⟨config.port, drive.failEvery⟩ (Identity.ofSeed drive.seed).pid
    Clock.start

/-- The world lets a run go on while its clock is before the horizon. -/
def goesOn (drive : Drive) (world : World) : Bool :=
  world.clock.now < drive.horizon

/-- The progress of the machine of an instance from its making to the end of the run. -/
def progress (drive : Drive) (config : Instance) : Except Fault Progress :=
  let start := Progress.start (drive.machine config) (World.ofSeed drive.seed)
  (start.run drive.goesOn (· == .crashed) maxSteps).mapError Interruption.fault

/-- Reads the settings, resolves the instance and runs its machine. -/
def run (drive : Drive) : Except Fault Driven :=
  (Store.load drive.settings).bind fun loading ↦
    match loading.outcome.bind fun store ↦ resolve store.accessor drive.index .auto with
    | .error error => .ok ⟨loading.notices, .error error⟩
    | .ok resolved =>
      (drive.progress resolved.config).map fun progress ↦ ⟨loading.notices, .ok progress⟩

end Drive

/-! ### The log of a run -/

/-- The last thing said about a run. -/
def Progress.closing (progress : Progress) : LogEntry :=
  { level := .debug
    speaker := .runner
    text := "Drove " ++ toString progress.events.size ++ " steps to t="
      ++ Binary64.tenths progress.world.clock.now.number ++ "s" }

/-- The log entries about a machine, from its making to the end of the run. -/
def Progress.logs (progress : Progress) : List LogEntry :=
  let machine := progress.machine
  let about := (machine.creation :: progress.notices.toList).map (Notice.entry machine.label)
  about ++ [progress.closing]

/-- The log entries of a run in order. -/
def Driven.logs (driven : Driven) : List LogEntry :=
  driven.notices.map LoadNotice.entry ++ match driven.outcome with
    | .ok progress => progress.logs
    | .error _ => []

/-- What was observed of a machine. -/
def Progress.trace (progress : Progress) : Trace where
  events := progress.events
  recorder := progress.world.recorder
  pid := progress.machine.state.pid
  maxRuntime := progress.machine.timing.maxRuntime

/-- What was observed in a run, or the error that kept it from being made. -/
def Driven.trace (driven : Driven) : Except ConfigError Trace :=
  driven.outcome.map Progress.trace

/-! ### What a trace shows -/

/-- The figures of a run. -/
structure Metrics where
  heartbeatsSent : Nat
  sendFailures : Nat
  stallIterations : Nat
  ceilingHits : Nat
  crashedAt : Option Span
deriving DecidableEq

/-- The figures of a run that was never made. -/
def Metrics.none : Metrics := ⟨0, 0, 0, 0, Option.none⟩

/-- The event is a delivered heartbeat. -/
def Event.isSent : Event → Bool
  | .heartbeatSent _ _ _ => true
  | _ => false

/-- The event is an attempt that failed. -/
def Event.isFailed : Event → Bool
  | .sendFailed _ _ => true
  | _ => false

/-- The event is a step of a stall. -/
def Event.isStalled : Event → Bool
  | .stalled _ => true
  | _ => false

/-- The event is the ceiling of a role that goes on. -/
def Event.isCeiling : Event → Bool
  | .ceilingReached _ _ => true
  | _ => false

/-- The event is the start of the loop. -/
def Event.isInitialDelay : Event → Bool
  | .initialDelay _ => true
  | _ => false

namespace Trace

/-- The number of events of a kind. -/
def count (trace : Trace) (kind : Event → Bool) : Nat :=
  trace.events.countP fun stamped ↦ kind stamped.event

/-- The time of the first event of a kind. -/
def timeOf? (trace : Trace) (kind : Event → Bool) : Option Span :=
  (trace.events.find? fun stamped ↦ kind stamped.event).map fun stamped ↦ stamped.time.now

/-- The time of the crash. -/
def crashedAt (trace : Trace) : Option Span :=
  trace.timeOf? (· == .crashed)

/-- The time at which the loop started. -/
def loopStartedAt (trace : Trace) : Option Span :=
  trace.timeOf? Event.isInitialDelay

/-- The times between delivered datagrams that follow each other. -/
def gaps (trace : Trace) : List Span :=
  let times := trace.recorder.sent.toList.map fun datagram ↦ datagram.time.now
  (times.zip times.tail).map fun pair ↦ pair.2 - pair.1

/-- The figures of a run. -/
def metrics (trace : Trace) : Metrics where
  heartbeatsSent := trace.recorder.sent.size
  sendFailures := trace.recorder.failures.toNat
  stallIterations := trace.count Event.isStalled
  ceilingHits := trace.count Event.isCeiling
  crashedAt := trace.crashedAt

end Trace

end Heartbeat
