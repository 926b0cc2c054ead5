/-!
# Instances

An instance is one emitter of heartbeats: its index, the name in its log lines, the delay before its
first heartbeat, its nominal interval and the port of the watchdog, as the settings give them.
-/

set_option autoImplicit false
set_option relaxedAutoImplicit false

namespace Heartbeat

/-- The parameters of an instance. Delay and interval are in seconds; an interval that is not
positive means no heartbeats. -/
structure Instance where
  index : UInt32
  name : String
  delay : Int64
  interval : Int64
  port : UInt16
deriving DecidableEq

end Heartbeat
