import Heartbeat.Binary64.Reading
import Heartbeat.CommandLine.Outcome
import Heartbeat.Report.Summary
import Heartbeat.Text.Numeral

/-!
# The simulation program

The program runs one scenario or all of them for consecutive seeds and ends with status one if a
run has not passed. Its log goes to the stream for errors; with `--json` the log holds only what
the runs themselves say, and the output is the summary.
-/

set_option autoImplicit false
set_option relaxedAutoImplicit false

namespace Heartbeat.CommandLine.Simulation

open Heartbeat.Report Heartbeat.Text

/-! ### Options -/

/-- The name that stands for all scenarios. -/
def allName : String := "all"

/-- The scenarios that can be asked for, and the name for all of them. -/
def scenarioNames : String :=
  ", ".intercalate (Scenario.all.map Scenario.name ++ [allName])

/-- The command line of the program. -/
def grammar : Grammar where
  program := "pulse-sim"
  about := "Run deterministic heartbeat scenarios for Pulse"
  positionals := []
  options :=
    [ ⟨"seed", some 's',
        some ⟨"SEED", "42", fun text ↦ (readUInt64? text.toList).isSome⟩,
        "Master seed for determinism (0 = random from time)"⟩,
      ⟨"scenario", some 'S', some ⟨"SCENARIO", allName, fun _ ↦ true⟩,
        "Scenario to run (" ++ scenarioNames ++ ")"⟩,
      ⟨"seeds", none, some ⟨"SEEDS", "1", fun text ↦ (readUInt64? text.toList).isSome⟩,
        "Number of consecutive seeds to test (for CI mode)"⟩,
      ⟨"horizon", none,
        some ⟨"HORIZON", "900", fun text ↦ (Binary64.read? text.toList).isSome⟩,
        "Virtual seconds before a scenario is cut off"⟩,
      ⟨"verbose", some 'v', none, "Verbose output"⟩,
      ⟨"json", none, none, "JSON output for CI parsing"⟩ ]

/-- What a command line asks for. -/
structure Request where
  seed : UInt64
  scenario : String
  seeds : Nat
  horizon : Binary64.Reading
  verbose : Bool
  json : Bool

/-- What a command line of the grammar asks for. -/
def Request.ofArguments (arguments : Arguments) : Request where
  seed := ((arguments.value? "seed").bind fun text ↦ readUInt64? text.toList).getD 42
  scenario := (arguments.value? "scenario").getD allName
  seeds := ((arguments.value? "seeds").bind fun text ↦ readNatural? text.toList).getD 1
  horizon := ((arguments.value? "horizon").bind fun text ↦ Binary64.read? text.toList).getD
    (.finite defaultHorizon)
  verbose := arguments.hasFlag "verbose"
  json := arguments.hasFlag "json"

/-- The log shows the runs, and of the machines only warnings. -/
def quietFilter : LogFilter
  | .runner | .simulation => .info
  | .settings | .machine => .warning
  | .child => .error

/-- The filter of the log. -/
def Request.filter (request : Request) : LogFilter :=
  if request.verbose then LogFilter.everything else quietFilter

/-! ### The batch -/

/-- The scenarios that a name asks for. -/
def scenariosOf? (name : String) : Option (List Scenario) :=
  if name = allName then some Scenario.all else (Scenario.ofName? name).map ([·])

/-- The runs of a batch in order: for each seed, every scenario. Seeds go round at the end of their
range. -/
def runsOf (seed : UInt64) (seeds : Nat) (scenarios : List Scenario) : List (UInt64 × Scenario) :=
  (List.range seeds).flatMap fun offset ↦
    scenarios.map fun scenario ↦ (seed + UInt64.ofNat offset, scenario)

/-- The results of runs, and the lines of their logs that pass a filter; a verdict follows the log
of each run if it is wanted. -/
def runAll (horizon : Span) (filter : LogFilter) (verdicts : Bool) :
    List (UInt64 × Scenario) → Except Fault (List (ScenarioResult × List String))
  | [] => .ok []
  | (seed, scenario) :: rest =>
    match scenario.run seed horizon with
    | .error fault => .error fault
    | .ok (result, logs) =>
      let logs := logs ++ (if verdicts then [Summary.verdict result] else [])
      let lines := shownLines filter logs
      (runAll horizon filter verdicts rest).map ((result, lines) :: ·)

/-- The horizon of a batch. It has to be a span only if there is a run. -/
def Request.span (request : Request) : Except Fault Span :=
  match request.horizon with
  | .finite seconds =>
    match Span.ofNumber? seconds with
    | some horizon => .ok horizon
    | none => .error .spanOutOfRange
  | .notFinite => .error .spanOutOfRange

/-- The summary of a batch and the lines of the log. -/
def Request.batch (request : Request) (scenarios : List Scenario) :
    Except Fault (Summary × List String) :=
  match runsOf request.seed request.seeds scenarios with
  | [] => .ok (⟨[]⟩, [])
  | runs =>
    request.span.bind fun horizon ↦
      (runAll horizon request.filter (!request.json) runs).map fun done ↦
        (⟨done.map Prod.fst⟩, done.flatMap Prod.snd)

/-! ### The program -/

/-- The end of the program after a batch. -/
def Request.ended (request : Request) (head : List String) (summary : Summary)
    (lines : List String) : Outcome where
  status := if summary.failed = 0 then 0 else 1
  output := if request.json then [summary.json.pretty 0 ++ "\n"] else []
  errors := head ++ lines
    ++ (if request.json then [] else shownLines request.filter summary.closing)

/-- The program for what a command line asks for. -/
def Request.run (request : Request) : Outcome :=
  let head := if request.json then [] else shownLines request.filter Summary.heading
  match scenariosOf? request.scenario with
  | none =>
    ⟨1, [], head ++ ["Error: " ++ Scenario.unknownMessage request.scenario ++ "\n",
      "Available scenarios: " ++ scenarioNames ++ "\n"]⟩
  | some scenarios =>
    match request.batch scenarios with
    | .ok (summary, lines) => request.ended head summary lines
    | .error _ => Outcome.ofFault

/-- The program for a command line. The seed zero stands for the time of day. -/
def run (timeOfDay : UInt64) (arguments : List String) : Outcome :=
  match grammar.parse arguments with
  | .error stop => Outcome.ofStop grammar stop
  | .ok arguments =>
    let request := Request.ofArguments arguments
    Request.run (if request.seed = 0 then { request with seed := timeOfDay } else request)

end Heartbeat.CommandLine.Simulation
