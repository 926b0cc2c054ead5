import Heartbeat.CommandLine.Grammar
import Heartbeat.Log

/-!
# Outcomes of programs

A program ends with an `Outcome`: its exit status and what it wrote to the two streams, line by
line. A line may itself hold line breaks. Command lines that are not of the grammar have the status
`usageStatus`, and a fault has `faultStatus`.
-/

set_option autoImplicit false
set_option relaxedAutoImplicit false

namespace Heartbeat.CommandLine

/-- How a program ended. -/
structure Outcome where
  status : Nat
  output : List String
  errors : List String
deriving DecidableEq

/-- The exit status after a command line that is not of the grammar. -/
def usageStatus : Nat := 2

/-- The exit status after a fault. -/
def faultStatus : Nat := 101

namespace Outcome

/-- Help was asked for, or the command line is not of the grammar. -/
def ofStop (grammar : Grammar) : Stop → Outcome
  | .help => ⟨0, [grammar.help], []⟩
  | .usage => ⟨usageStatus, [], [grammar.usageLine ++ "\n"]⟩

/-- A fault ended the program. -/
def ofFault : Outcome := ⟨faultStatus, [], []⟩

/-- All that was written to the output. -/
def outputText (outcome : Outcome) : String :=
  String.join outcome.output

/-- All that was written to the stream for errors. -/
def errorText (outcome : Outcome) : String :=
  String.join outcome.errors

end Outcome

/-- The lines of a log that pass a filter. -/
def shownLines (filter : LogFilter) (logs : List LogEntry) : List String :=
  (logs.filter filter.passes).map fun entry ↦ entry.fullLine ++ "\n"

end Heartbeat.CommandLine
