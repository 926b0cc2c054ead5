import Heartbeat.Argument
import Heartbeat.CommandLine.Outcome
import Heartbeat.Instance.Resolution
import Heartbeat.Palette
import Heartbeat.Settings.Folder

/-!
# The child program

The program is one instance: it reads its index and its role from the command line and its other
parameters from a file. `Child.start` is the program up to the moment when the machine can be made:
either it has ended, because of the command line or of the settings, or it is a `Startup` with all
that the machine needs. The log goes to the output and the report of an error to the stream for
errors.
-/

set_option autoImplicit false
set_option relaxedAutoImplicit false

namespace Heartbeat.CommandLine.Child

open Heartbeat.Settings

/-! ### Options -/

/-- The name of the program. -/
def program : String := "pulse-child"

/-- The command line of the program. -/
def grammar : Grammar where
  program := program
  about := "Send heartbeats to a process watchdog, then misbehave on cue"
  positionals :=
    [ ⟨"INDEX", "1-based instance index (defaults to 1)", true⟩,
      ⟨"ROLE", "Failure role: crash, noheartbeat, noping", false⟩ ]
  options :=
    [ ⟨"config", some 'c', some ⟨"CONFIG", "config.ini", fun text ↦ text != ""⟩,
        "INI file holding the [processWatchdog] settings"⟩,
      ⟨"layout", none, some ⟨"LAYOUT", "auto", fun text ↦ (Layout.ofName? text).isSome⟩,
        "Instance layout (auto, flat, sections)"⟩,
      ⟨"no-color", none, none, "Disable per-instance console colors"⟩,
      ⟨"verbose", some 'v', none, "Verbose output"⟩ ]

/-! ### Reports of errors -/

/-- A text whose lines after the first start with blanks. -/
def indented (blanks text : String) : String :=
  ("\n" ++ blanks).intercalate (text.splitOn "\n")

/-- The causes of an error. A single cause has no number. -/
def causeLines (causes : List String) : List String :=
  match causes with
  | [cause] => ["    " ++ indented "    " cause]
  | _ => causes.zipIdx.map fun cause ↦
    let number := toString cause.2
    String.ofList (List.replicate (5 - number.length) ' ') ++ number ++ ": "
      ++ indented "       " cause.1

/-- The report of what was being done and of the error that kept it from being done. -/
def report (doing : String) (error : ConfigError) : List String :=
  let causes := error.message :: match error with
    | .load cause => [cause.message]
    | _ => []
  (["Error: " ++ doing, "", "Caused by:"] ++ causeLines causes).map (· ++ "\n")

/-! ### The program -/

/-- All that the machine of the program needs, and what the program has said so far. -/
structure Startup where
  config : Instance
  role : Role
  palette : Palette
  filter : LogFilter
  output : List String

/-- An entry of the log of the program. -/
def entry (level : Level) (text : String) : LogEntry :=
  ⟨level, .child, text⟩

/-- What is said about an argument: the error, if there is one, and the value in use. -/
def argumentEntries (error : Option ArgumentError) (text : String) : List LogEntry :=
  error.toList.map (fun error ↦ entry .warning error.message) ++ [entry .info text]

/-- What is said about an instance that was resolved. -/
def resolvedEntries (resolved : Resolved) : List LogEntry :=
  let config := resolved.config
  resolved.warnings.map (fun warning ↦ entry .warning warning.message) ++
    [ entry .info ("UDP_PORT set to " ++ toString config.port.toNat),
      entry .info ("Heartbeat delay set to " ++ toString config.delay.toInt),
      entry .info ("Heartbeat interval set to " ++ toString config.interval.toInt),
      entry .info ("Process name set to " ++ config.name ++ " (" ++ resolved.layout.name
        ++ " layout)") ]

/-- The path of the settings. -/
def configPath (arguments : Arguments) : String :=
  (arguments.value? "config").getD "config.ini"

/-- The program for a command line of the grammar. -/
def startWith (read : String → Option ByteArray) (arguments : Arguments) :
    Except Outcome Startup :=
  let path := configPath arguments
  let layout := ((arguments.value? "layout").bind Layout.ofName?).getD .auto
  let filter : LogFilter :=
    if arguments.hasFlag "verbose" then LogFilter.everything else fun _ ↦ .info
  let (index, indexError) := readIndex arguments.positionals[0]?
  let (role, roleError) := readRole arguments.positionals[1]?
  let entries := entry .info (program ++ ": Application started")
    :: (argumentEntries indexError ("Index set to " ++ toString index.toNat)
      ++ argumentEntries roleError ("Role set to " ++ role.name))
  match Store.loadFile read path with
  | .error _ => .error Outcome.ofFault
  | .ok loading =>
    let entries := entries ++ loading.notices.map LoadNotice.entry
    match loading.outcome with
    | .error error => .error ⟨1, shownLines filter entries, report ("loading " ++ path) error⟩
    | .ok store =>
      match resolve store.accessor index layout with
      | .error error => .error ⟨1, shownLines filter entries,
          report ("resolving instance " ++ toString index.toNat ++ " from " ++ path) error⟩
      | .ok resolved => .ok
        { config := resolved.config
          role := role
          palette := if arguments.hasFlag "no-color" then .plain else Palette.ofIndex index
          filter := filter
          output := shownLines filter (entries ++ resolvedEntries resolved) }

/-- The program for a command line; `read` gives the bytes of the file with a path. -/
def start (read : String → Option ByteArray) (arguments : List String) :
    Except Outcome Startup :=
  match grammar.parse arguments with
  | .error stop => .error (Outcome.ofStop grammar stop)
  | .ok arguments => startWith read arguments

end Heartbeat.CommandLine.Child
