import Heartbeat.Instance
import Heartbeat.Instance.Layout
import Heartbeat.Text.Blank

/-!
# Resolving an instance

`resolve` reads the parameters of the instance with a given index. Only the port of the watchdog is
required: a whole number from 1 to 65535. Everything else has a default, and a `ConfigWarning` says
where a default was taken: for delay, then interval, then name.
-/

set_option autoImplicit false
set_option relaxedAutoImplicit false

namespace Heartbeat

open Heartbeat.Settings Heartbeat.Text

/-! ### Warnings -/

/-- A default that was taken, and why. -/
inductive ConfigWarning
  | defaulted (sectionName key : String) (fallback : Int64)
  | unparsable (sectionName key value : String) (fallback : Int64)
  | noApplicationSection (index : UInt32) (declared : Nat)
  | synthesizedName (index : UInt32) (fallback : String)
deriving DecidableEq

/-- The text of a warning. -/
def ConfigWarning.message : ConfigWarning → String
  | .defaulted sectionName key fallback =>
    ConfigError.shownKey sectionName key ++ " not set, using " ++ toString fallback.toInt
  | .unparsable sectionName key value fallback =>
    ConfigError.shownKey sectionName key ++ " = " ++ quoted value ++ " is not an integer, using "
      ++ toString fallback.toInt
  | .noApplicationSection index declared =>
    "No app section #" ++ toString index.toNat ++ " (" ++ toString declared
      ++ " declared), timing defaults to 0"
  | .synthesizedName index fallback =>
    "No name for instance " ++ toString index.toNat ++ ", using " ++ fallback

/-! ### The keys -/

/-- The section of the watchdog. -/
def watchdogSection : String := "processWatchdog"

/-- The key of the watchdog's port. -/
def portKey : String := "udp_port"

/-- The key of the delay in an application section. -/
def delayKey : String := "heartbeat_delay"

/-- The key of the interval in an application section. -/
def intervalKey : String := "heartbeat_interval"

/-- The key of the name, next to the keys of delay and interval in the watchdog's section. -/
def nameKey : String := "name"

/-- A key of the instance with an index in the watchdog's section. -/
def indexedKey (index : UInt32) (key : String) : String :=
  toString index.toNat ++ "_" ++ key

/-! ### Reading -/

/-- An instance, the layout it was read in, and the warnings on the way. -/
structure Resolved where
  config : Instance
  layout : Layout
  warnings : List ConfigWarning
deriving DecidableEq

/-- The port of the watchdog. -/
def readPort (accessor : Accessor) : Except ConfigError UInt16 :=
  match accessor.getInt watchdogSection portKey with
  | .error error => .error error
  | .ok port =>
    if 1 ≤ port.toInt ∧ port.toInt ≤ 65535 then .ok (UInt16.ofNat port.toInt.toNat)
    else .error (.invalidValue watchdogSection portKey (toString port.toInt))

/-- The integer under a key, or zero with a warning. -/
def optionalInt (accessor : Accessor) (sectionName key : String) : Int64 × List ConfigWarning :=
  match accessor.getInt sectionName key with
  | .ok value => (value, [])
  | .error (.invalidValue _ _ value) => (0, [.unparsable sectionName key value 0])
  | .error _ => (0, [.defaulted sectionName key 0])

/-- A name, delay and interval before defaults for the name, and the warnings so far. -/
structure Parameters where
  name : Option String
  delay : Int64
  interval : Int64
  warnings : List ConfigWarning
deriving DecidableEq

/-- The delay and the interval under two keys of a section, with a name. -/
def readTimes (accessor : Accessor) (sectionName delayName intervalName : String)
    (name : Option String) : Parameters :=
  let (delay, delayWarnings) := optionalInt accessor sectionName delayName
  let (interval, intervalWarnings) := optionalInt accessor sectionName intervalName
  ⟨name, delay, interval, delayWarnings ++ intervalWarnings⟩

/-- The application section of the instance with an index. The first index is one. -/
def applicationSection? (accessor : Accessor) (index : UInt32) : Option String :=
  if index = 0 then none else (applicationSections accessor)[index.toNat - 1]?

/-- The parameters of an instance in a layout that is not `auto`. -/
def readParameters (accessor : Accessor) (index : UInt32) (layout : Layout) : Parameters :=
  match layout with
  | .sections =>
    match applicationSection? accessor index with
    | some sectionName =>
      readTimes accessor sectionName delayKey intervalKey (some (applicationName sectionName))
    | none =>
      ⟨none, 0, 0, [.noApplicationSection index (applicationSections accessor).length]⟩
  | _ =>
    readTimes accessor watchdogSection (indexedKey index delayKey) (indexedKey index intervalKey)
      (accessor.getString watchdogSection (indexedKey index nameKey)).toOption

/-- The name of an instance that has none. -/
def fallbackName (index : UInt32) : String :=
  "Process" ++ toString index.toNat

/-- A name without blanks around it, or the fallback with a warning if nothing is left. -/
def chooseName (index : UInt32) (name : Option String) : String × List ConfigWarning :=
  let name := trimmed (name.getD "")
  if name = "" then (fallbackName index, [.synthesizedName index (fallbackName index)])
  else (name, [])

/-- The instance with an index, as the settings describe it. -/
def resolve (accessor : Accessor) (index : UInt32) (layout : Layout) :
    Except ConfigError Resolved :=
  (readPort accessor).map fun port ↦
    let layout := layout.effective accessor
    let parameters := readParameters accessor index layout
    let (name, nameWarnings) := chooseName index parameters.name
    { config := ⟨index, name, parameters.delay, parameters.interval, port⟩
      layout := layout
      warnings := parameters.warnings ++ nameWarnings }

end Heartbeat
