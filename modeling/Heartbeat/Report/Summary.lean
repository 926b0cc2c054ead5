import Heartbeat.Report.Json
import Heartbeat.Scenario

/-!
# The summary of a batch

A batch runs scenarios for consecutive seeds. `Summary` is its results in the order of the runs;
`Summary.json` is the account for other programs and `Summary.closing` the one for people.
-/

set_option autoImplicit false
set_option relaxedAutoImplicit false

namespace Heartbeat.Report

/-- The results of a batch in the order of the runs. -/
structure Summary where
  results : List ScenarioResult

namespace Summary

/-- The results that have not passed. -/
def failures (summary : Summary) : List ScenarioResult :=
  summary.results.filter fun result ↦ !result.passed

/-- The number of runs. -/
def total (summary : Summary) : Nat :=
  summary.results.length

/-- The number of runs that have not passed. -/
def failed (summary : Summary) : Nat :=
  summary.failures.length

/-- The number of runs that have passed. -/
def passed (summary : Summary) : Nat :=
  summary.total - summary.failed

/-! ### For other programs -/

/-- The figures of a run. -/
def metricsJson (metrics : Metrics) : Json :=
  .object
    [ ("ceiling_hits", .integer metrics.ceilingHits),
      ("crashed_at_secs", match metrics.crashedAt with
        | some time => .number time.number
        | none => .null),
      ("heartbeats_sent", .integer metrics.heartbeatsSent),
      ("send_failures", .integer metrics.sendFailures),
      ("stall_iterations", .integer metrics.stallIterations) ]

/-- One result. -/
def resultJson (result : ScenarioResult) : Json :=
  .object
    [ ("failure_reason", match result.shortfall with
        | some shortfall => .text shortfall.message
        | none => .null),
      ("metrics", metricsJson result.metrics),
      ("passed", .bool result.passed),
      ("scenario", .text result.scenario.name),
      ("seed", .integer result.seed.toNat),
      ("steps", .integer result.steps),
      ("time_secs", .number result.finalTime.number) ]

/-- A summary as one object, fields in alphabetical order. -/
def json (summary : Summary) : Json :=
  .object
    [ ("failed", .integer summary.failed),
      ("passed", .integer summary.passed),
      ("results", .list (summary.results.map resultJson)),
      ("total", .integer summary.total) ]

/-! ### For people -/

/-- An entry of the log of a batch. -/
def entry (level : Level) (text : String) : LogEntry :=
  ⟨level, .simulation, text⟩

/-- The line that sets off the head and the end of the log. -/
def rule : LogEntry :=
  entry .info (String.ofList (List.replicate 53 '━'))

/-- The head of the log. -/
def heading : List LogEntry :=
  [entry .info "Pulse DST Simulator v0.1.0", rule]

/-- The text of the shortfall of a result. -/
def reason (result : ScenarioResult) : String :=
  (result.shortfall.map Shortfall.message).getD "unknown"

/-- What is said about one result. -/
def verdict (result : ScenarioResult) : LogEntry :=
  let run := result.scenario.name ++ " (seed=" ++ toString result.seed.toNat ++ ")"
  if result.passed then
    entry .info ("✓ " ++ run ++ " PASSED | " ++ toString result.metrics.heartbeatsSent ++ " beats, "
      ++ toString result.metrics.stallIterations ++ " stall ticks, t="
      ++ Binary64.tenths result.finalTime.number ++ "s")
  else entry .error ("✗ " ++ run ++ " FAILED: " ++ reason result)

/-- The end of the log. -/
def closing (summary : Summary) : List LogEntry :=
  if summary.failed = 0 then
    [rule, entry .info ("✅ All " ++ toString summary.total ++ " scenario runs passed!")]
  else
    let head := entry .error ("❌ " ++ toString summary.failed ++ "/" ++ toString summary.total
      ++ " scenario runs failed!")
    rule :: head :: summary.failures.map fun result ↦
      entry .error ("  - " ++ result.scenario.name ++ " seed=" ++ toString result.seed.toNat ++ ": "
        ++ reason result)

end Summary

end Heartbeat.Report
