import Heartbeat.Text.Quoted

/-!
# The log

A log is a list of `LogEntry`: a level, the part of the program that speaks, and a line of text.
`LogEntry.line` is the plain form of an entry and `LogEntry.fullLine` the form for a terminal, where
no text can steer the terminal: `disarmed`. `LogFilter` is the least level that each part shows.
-/

set_option autoImplicit false
set_option relaxedAutoImplicit false

namespace Heartbeat

/-- The weight of a log entry. -/
inductive Level
  | debug
  | info
  | warning
  | error
deriving DecidableEq

namespace Level

/-- The word for a level in a log line. -/
def label : Level → String
  | .debug => "DEBUG"
  | .info => "INFO"
  | .warning => "WARN"
  | .error => "ERROR"

/-- The place of a level in the order of weight. -/
def rank : Level → Nat
  | .debug => 0
  | .info => 1
  | .warning => 2
  | .error => 3

end Level

/-- The part of the program that speaks. -/
inductive Speaker
  | settings
  | machine
  | runner
  | simulation
  | child
deriving DecidableEq

/-- The name of a part of the program in a log line. -/
def Speaker.label : Speaker → String
  | .settings => "pulse_core::config"
  | .machine => "pulse_core::simulator"
  | .runner => "pulse_sim::runner"
  | .simulation => "pulse_sim"
  | .child => "pulse_child"

/-- One line of a log. -/
structure LogEntry where
  level : Level
  speaker : Speaker
  text : String

/-- Level and text of an entry. -/
def LogEntry.line (entry : LogEntry) : String :=
  entry.level.label ++ " " ++ entry.text

/-- The bell, the backspace, the form feed, the escape and the delete: the controls with a code
of one byte that steer a terminal. -/
def steeringControls : List Char :=
  ['\x07', '\x08', '\x0c', '\x1b', '\x7f']

/-- A character as a terminal may get it. A steering control is shown by the two hexadecimal digits
of its code after `\x`, and a control from U+0080 to U+009F as in quoted text. -/
def disarmedChar (c : Char) : List Char :=
  if steeringControls.contains c then
    ['\\', 'x', Nat.digitChar (c.toNat / 16), Nat.digitChar (c.toNat % 16)]
  else if 0x80 ≤ c.toNat && c.toNat ≤ 0x9f then Text.escapedCode c
  else [c]

/-- A text as a terminal may get it. -/
def disarmed (text : String) : String :=
  String.ofList (text.toList.flatMap disarmedChar)

/-- Level, speaker and text of an entry, for a terminal. -/
def LogEntry.fullLine (entry : LogEntry) : String :=
  entry.level.label ++ " " ++ entry.speaker.label ++ ": " ++ disarmed entry.text

/-- The least level that each part of the program shows. -/
abbrev LogFilter := Speaker → Level

/-- An entry passes a filter when it weighs as much as its speaker has to. -/
def LogFilter.passes (filter : LogFilter) (entry : LogEntry) : Bool :=
  (filter entry.speaker).rank ≤ entry.level.rank

/-- The filter that lets everything through. -/
def LogFilter.everything : LogFilter := fun _ ↦ .debug

end Heartbeat
