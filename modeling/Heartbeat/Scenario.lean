import Heartbeat.Trace

/-!
# Scenarios

Six scenarios show what a watchdog can rely on. Each is a run with settings and a role of its own
(`Scenario.drive`) and a list of expectations of what was observed. `Scenario.run` makes the run and
gives a `ScenarioResult`, whose `shortfall` is the first expectation that was not met. The scenario
without a port expects the opposite of a run: that its settings are refused because the port is
missing.
-/

set_option autoImplicit false
set_option relaxedAutoImplicit false

namespace Heartbeat

open Heartbeat.Settings Heartbeat.Text

/-- The scenarios. -/
inductive Scenario
  | crashCeiling
  | silentStall
  | missingPort
  | stallWindow
  | healthyRole
  | lossyTransport
deriving DecidableEq

namespace Scenario

/-! ### The catalogue -/

/-- All scenarios in order. -/
def all : List Scenario :=
  [.crashCeiling, .silentStall, .missingPort, .stallWindow, .healthyRole, .lossyTransport]

/-- The name of a scenario. -/
def name : Scenario → String
  | .crashCeiling => "crash_ceiling"
  | .silentStall => "silent_stall"
  | .missingPort => "missing_port"
  | .stallWindow => "stall_window"
  | .healthyRole => "healthy_role"
  | .lossyTransport => "lossy_transport"

/-- What a scenario shows. -/
def description : Scenario → String
  | .crashCeiling => "delay=2 interval=30 role=crash: 10-15s beats, exit 0 after 180s"
  | .silentStall => "interval=0 role=noheartbeat: no datagrams, process stays up"
  | .missingPort => "no udp_port key: ConfigError before socket or timer"
  | .stallWindow => "interval=60 role=noheartbeat: 49 silent 6.1s ticks, then resume"
  | .healthyRole => "unrecognized role: heartbeats continue past the ceiling"
  | .lossyTransport => "every 3rd send fails: loop continues, crash still fires"

/-- The names that a scenario answers to, in lower case. -/
def names : Scenario → List String
  | .crashCeiling => ["crash_ceiling", "crash", "hb-001"]
  | .silentStall => ["silent_stall", "silent", "hb-002"]
  | .missingPort => ["missing_port", "hb-003"]
  | .stallWindow => ["stall_window", "stall", "hb-004"]
  | .healthyRole => ["healthy_role", "healthy", "hb-005"]
  | .lossyTransport => ["lossy_transport", "lossy", "hb-006"]

/-- The scenario that answers to a name, in any case. -/
def ofName? (name : String) : Option Scenario :=
  all.find? fun scenario ↦ scenario.names.contains (lowercased name)

/-- The text for a name that no scenario answers to. -/
def unknownMessage (name : String) : String :=
  "Unknown scenario: " ++ name

/-! ### The runs -/

/-- The settings of a scenario. -/
def settings : Scenario → String
  | .crashCeiling =>
    "[processWatchdog]\nudp_port = 12345\n1_name = worker\n"
      ++ "1_heartbeat_delay = 2\n1_heartbeat_interval = 30\n"
  | .silentStall =>
    "[processWatchdog]\nudp_port = 12345\n2_name = idler\n2_heartbeat_interval = 0\n"
  | .missingPort => "[processWatchdog]\n1_heartbeat_interval = 30\n"
  | .stallWindow =>
    "[processWatchdog]\nudp_port = 12345\n\n[app:steady]\nheartbeat_interval = 60\n"
  | .healthyRole => "[processWatchdog]\nudp_port = 12345\n1_heartbeat_interval = 20\n"
  | .lossyTransport => "[processWatchdog]\nudp_port = 12345\n1_heartbeat_interval = 10\n"

/-- The index of the instance of a scenario. -/
def index : Scenario → UInt32
  | .silentStall => 2
  | _ => 1

/-- The role of the instance of a scenario. -/
def role : Scenario → Role
  | .silentStall | .stallWindow => .noHeartbeat
  | .healthyRole => .unrecognized "healthy"
  | _ => .crash

/-- Which attempts to send fail in a scenario. -/
def failEvery : Scenario → UInt64
  | .lossyTransport => 3
  | _ => 0

/-- The run of a scenario. -/
def drive (scenario : Scenario) (seed : UInt64) (horizon : Span) : Drive :=
  ⟨seed, horizon, scenario.settings, scenario.index, scenario.role, scenario.failEvery⟩

end Scenario

/-! ### Shortfalls -/

/-- An expectation that was not met. -/
inductive Shortfall
  | loopStart (found : Option Span)
  | lateFirstHeartbeat
  | foreignPayload
  | gapsOutside (low high : Nat) (gaps : List Span)
  | crashTime (found : Option Span)
  | sentWhileDisabled (count : Nat)
  | exitWhileSilent
  | noStall
  | rejected (error : ConfigError)
  | startedWithoutPort
  | ceilingNotReached
  | stallCount (count : Nat)
  | stallSpacing
  | leaked (count : Nat)
  | notResumed
  | exited
  | ceilingNotEvaluated
  | silentAfterCeiling
  | failures (count : Nat)
  | deliveries (delivered failed : Nat)
  | notCrashed
deriving DecidableEq

namespace Shortfall

/-- An optional span as messages show it. -/
def shownOption : Option Span → String
  | some span => "Some(" ++ span.text ++ ")"
  | none => "None"

/-- A list of spans as messages show it. -/
def shownList (spans : List Span) : String :=
  "[" ++ ", ".intercalate (spans.map Span.text) ++ "]"

/-- The text of a shortfall. -/
def message : Shortfall → String
  | .loopStart found => "loop started at " ++ shownOption found ++ ", expected 1s"
  | .lateFirstHeartbeat => "first heartbeat not sent right after the initial delay"
  | .foreignPayload => "payload does not carry the sender pid"
  | .gapsOutside low high gaps =>
    "heartbeat gaps outside " ++ toString low ++ "-" ++ toString high ++ "s: " ++ shownList gaps
  | .crashTime found => "crash at " ++ shownOption found ++ ", expected within 181-196s"
  | .sentWhileDisabled count => toString count ++ " datagrams sent with heartbeats disabled"
  | .exitWhileSilent => "process exited on the noheartbeat path"
  | .noStall => "ceiling never triggered a stall"
  | .rejected error => "config rejected: " ++ error.message
  | .startedWithoutPort => "started without udp_port"
  | .ceilingNotReached => "ceiling never reached"
  | .stallCount count => toString count ++ " stall iterations, expected 49"
  | .stallSpacing => "stall iterations not 6.1s apart"
  | .leaked count => toString count ++ " heartbeats leaked into the stall"
  | .notResumed => "loop did not resume heartbeats after the stall"
  | .exited => "process exited"
  | .ceilingNotEvaluated => "ceiling never evaluated"
  | .silentAfterCeiling => "heartbeats stopped after the ceiling"
  | .failures count => toString count ++ " failures observed"
  | .deliveries delivered failed =>
    toString delivered ++ " delivered vs " ++ toString failed ++ " failed"
  | .notCrashed => "crash never fired under transport failures"

end Shortfall

/-! ### Expectations -/

/-- An expectation: whether it was met, and the shortfall if it was not. -/
structure Expectation where
  met : Bool
  shortfall : Shortfall

/-- The first expectation that was not met. -/
def firstShortfall (expectations : List Expectation) : Option Shortfall :=
  (expectations.find? fun expectation ↦ !expectation.met).map Expectation.shortfall

/-- Every delivered datagram carries the process id of the sender. -/
def Trace.carriesPid (trace : Trace) : Bool :=
  trace.recorder.sent.all fun datagram ↦ readPayload? datagram.bytes == some trace.pid

/-- The times between delivered datagrams lie between two bounds in seconds. -/
def Trace.gapsWithin (trace : Trace) (low high : Nat) : Bool :=
  trace.gaps.all fun gap ↦ Span.ofSeconds low ≤ gap && gap ≤ Span.ofSeconds high

/-- The expectation of gaps between two bounds. -/
def Trace.expectGaps (trace : Trace) (low high : Nat) : Expectation :=
  ⟨trace.gapsWithin low high, .gapsOutside low high trace.gaps⟩

/-- The stall after the first ceiling: the time of the ceiling, the events of the stall, and the
events from its end on. -/
structure StallWindow where
  start : Span
  events : List Stamped
  rest : List Stamped

/-- The stall after the first ceiling of a trace. -/
def Trace.stallWindow? (trace : Trace) : Option StallWindow :=
  match trace.events.toList.dropWhile fun stamped ↦ !stamped.event.isCeiling with
  | [] => none
  | ceiling :: later =>
    let inside := fun (stamped : Stamped) ↦ stamped.event != .stallFinished
    some ⟨ceiling.time.now, later.takeWhile inside, later.dropWhile inside⟩

namespace StallWindow

/-- The number of steps of the stall. -/
def stalls (window : StallWindow) : Nat :=
  window.events.countP fun stamped ↦ stamped.event.isStalled

/-- The seconds between two events of the stall are 6.1, up to a thousandth, in floating point. -/
def isTick (span : Span) : Bool :=
  let difference := Binary64.round (span.number - Binary64.round (61 / 10))
  Binary64.magnitude difference < Binary64.round (1 / 1000)

/-- The events of the stall follow each other by one tick. -/
def spaced (window : StallWindow) : Bool :=
  let times := window.events.map fun stamped ↦ stamped.time.now
  (times.zip times.tail).all fun pair ↦ isTick (pair.2 - pair.1)

/-- The time of the last event of the stall. -/
def stop (window : StallWindow) : Span :=
  (window.events.getLast?.map fun stamped ↦ stamped.time.now).getD window.start

/-- The number of datagrams that were delivered between the ceiling and the last event of the
stall. -/
def leaked (window : StallWindow) (trace : Trace) : Nat :=
  trace.recorder.sent.countP fun datagram ↦
    window.start < datagram.time.now && datagram.time.now < window.stop

/-- The first event after the end of the stall is a delivered heartbeat. -/
def resumes (window : StallWindow) : Bool :=
  match (window.rest.drop 1).find? fun stamped ↦ stamped.event != .stallFinished with
  | some stamped => stamped.event.isSent
  | none => false

end StallWindow

namespace Scenario

/-- What a scenario expects of a run that was made. -/
def expectations (scenario : Scenario) (trace : Trace) : List Expectation :=
  match scenario with
  | .crashCeiling =>
    let start := trace.loopStartedAt
    let crash := trace.crashedAt
    [ ⟨start == some (Span.ofSeconds 1), .loopStart start⟩,
      ⟨(trace.recorder.sent[0]?.map fun datagram ↦ datagram.time.now) == start,
        .lateFirstHeartbeat⟩,
      ⟨trace.carriesPid, .foreignPayload⟩,
      trace.expectGaps 10 15,
      ⟨crash.any fun time ↦ Span.ofSeconds 181 ≤ time && time ≤ Span.ofSeconds 196,
        .crashTime crash⟩ ]
  | .silentStall =>
    [ ⟨trace.recorder.sent.size == 0, .sentWhileDisabled trace.recorder.sent.size⟩,
      ⟨trace.crashedAt.isNone, .exitWhileSilent⟩,
      ⟨0 < trace.metrics.stallIterations, .noStall⟩ ]
  | .missingPort => [⟨false, .startedWithoutPort⟩]
  | .stallWindow =>
    match trace.stallWindow? with
    | none => [⟨false, .ceilingNotReached⟩]
    | some window =>
      [ ⟨window.stalls == 49, .stallCount window.stalls⟩,
        ⟨window.spaced, .stallSpacing⟩,
        ⟨window.leaked trace == 0, .leaked (window.leaked trace)⟩,
        ⟨window.resumes, .notResumed⟩,
        ⟨trace.crashedAt.isNone, .exited⟩ ]
  | .healthyRole =>
    let late := trace.recorder.sent.countP fun datagram ↦
      trace.maxRuntime + Span.ofSeconds 60 < datagram.time.now
    [ ⟨trace.crashedAt.isNone, .exited⟩,
      ⟨0 < trace.metrics.ceilingHits, .ceilingNotEvaluated⟩,
      ⟨0 < late, .silentAfterCeiling⟩,
      trace.expectGaps 6 10 ]
  | .lossyTransport =>
    let failed := trace.count Event.isFailed
    let delivered := trace.count Event.isSent
    [ ⟨0 < failed && failed == trace.recorder.failures.toNat, .failures failed⟩,
      ⟨2 * failed ≤ delivered && delivered ≤ 2 * failed + 2, .deliveries delivered failed⟩,
      ⟨trace.crashedAt.isSome, .notCrashed⟩ ]

end Scenario

/-! ### Results -/

/-- The result of a scenario. `finalTime` is the time of the last event. -/
structure ScenarioResult where
  scenario : Scenario
  seed : UInt64
  steps : Nat
  finalTime : Span
  shortfall : Option Shortfall
  metrics : Metrics
deriving DecidableEq

/-- A scenario has passed when there is no shortfall. -/
def ScenarioResult.passed (result : ScenarioResult) : Bool :=
  result.shortfall.isNone

namespace Scenario

/-- The result of a run that was made. -/
def judged (scenario : Scenario) (seed : UInt64) (trace : Trace) : ScenarioResult where
  scenario := scenario
  seed := seed
  steps := trace.events.size
  finalTime := (trace.events.back?.map fun stamped ↦ stamped.time.now).getD Span.zero
  shortfall := firstShortfall (scenario.expectations trace)
  metrics := trace.metrics

/-- The result of a run that was not made, because of an error. -/
def refused (scenario : Scenario) (seed : UInt64) (error : ConfigError) : ScenarioResult where
  scenario := scenario
  seed := seed
  steps := 0
  finalTime := Span.zero
  shortfall := if scenario = .missingPort ∧ error.isMissing then none else some (.rejected error)
  metrics := Metrics.none

/-- What is said when a scenario starts. -/
def opening (scenario : Scenario) (seed : UInt64) : LogEntry :=
  { level := .info
    speaker := .runner
    text := "Running " ++ scenario.name ++ " (seed=" ++ toString seed.toNat ++ "): "
      ++ scenario.description }

/-- Runs a scenario in a fresh world and judges it; the log of the run comes with the result. -/
def run (scenario : Scenario) (seed : UInt64) (horizon : Span) :
    Except Fault (ScenarioResult × List LogEntry) :=
  ((scenario.drive seed horizon).run).map fun driven ↦
    let result := match driven.trace with
      | .ok trace => scenario.judged seed trace
      | .error error => scenario.refused seed error
    (result, scenario.opening seed :: driven.logs)

end Scenario

end Heartbeat
