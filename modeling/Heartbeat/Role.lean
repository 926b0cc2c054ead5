/-!
# Roles

The role of an instance is what it does when its observation window has passed: stop, fall silent
for a while, or nothing. `Role.ofName` reads a role from its name, which is taken as it is, in this
case and without surrounding space; `Role.name` is the way back.
-/

set_option autoImplicit false
set_option relaxedAutoImplicit false

namespace Heartbeat

/-- What an instance does at its ceiling. -/
inductive Role
  | crash
  | noHeartbeat
  | unrecognized (name : String)
deriving DecidableEq, Inhabited

namespace Role

/-- The role with a given name. Falling silent has two names. -/
def ofName (name : String) : Role :=
  if name = "crash" then .crash
  else if name = "noheartbeat" ∨ name = "noping" then .noHeartbeat
  else .unrecognized name

/-- The name of a role. -/
def name : Role → String
  | .crash => "crash"
  | .noHeartbeat => "noheartbeat"
  | .unrecognized name => name

/-- The role of an instance that was given none. -/
def default : Role := .crash

end Role

end Heartbeat
