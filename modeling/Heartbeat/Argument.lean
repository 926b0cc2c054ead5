import Heartbeat.Role
import Heartbeat.Text.Blank
import Heartbeat.Text.Numeral
import Heartbeat.Text.Quoted

/-!
# The two arguments of an instance

An instance is started with an index and a role, both optional. `readIndex` and `readRole` never
refuse: an argument that is not usable gives the default and an `ArgumentError` that says so.
Blanks around an argument do not count.
-/

set_option autoImplicit false
set_option relaxedAutoImplicit false

namespace Heartbeat

open Heartbeat.Text

/-- An argument that was replaced by its default. -/
inductive ArgumentError
  | index (raw : String) (fallback : UInt32)
  | role (fallback : String)
deriving DecidableEq

/-- The text of an argument error. -/
def ArgumentError.message : ArgumentError → String
  | .index raw fallback =>
    "Index " ++ quoted raw ++ " is not a positive integer, using " ++ toString fallback.toNat
  | .role fallback => "Role is empty, using " ++ fallback

/-- The index of an instance that was given none, or none that is usable. -/
def defaultIndex : UInt32 := 1

/-- The index that an argument denotes: a positive integer of 32 bits. -/
def readIndex : Option String → UInt32 × Option ArgumentError
  | none => (defaultIndex, none)
  | some raw =>
    match readUInt32? (trim raw.toList) with
    | some index =>
      if 0 < index then (index, none) else (defaultIndex, some (.index raw defaultIndex))
    | none => (defaultIndex, some (.index raw defaultIndex))

/-- The role that an argument names. -/
def readRole : Option String → Role × Option ArgumentError
  | none => (Role.default, none)
  | some raw =>
    let name := trimmed raw
    if name = "" then (Role.default, some (.role Role.default.name))
    else (Role.ofName name, none)

end Heartbeat
