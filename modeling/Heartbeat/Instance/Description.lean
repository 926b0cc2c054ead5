import Heartbeat.Ini.Document
import Heartbeat.Instance.Resolution

/-!
# Describing instances

The documents that describe a list of instances for one watchdog. The first instance has the index
one. `flatDocument` describes them in the flat layout, by keys of the watchdog's section that start
with the index, and `sectionsDocument` by a section of its own for each, in the same order.
-/

set_option autoImplicit false
set_option relaxedAutoImplicit false

namespace Heartbeat

/-- What settings say about one instance. -/
structure Description where
  name : String
  delay : Int64
  interval : Int64
deriving DecidableEq

/-- The entry of the watchdog's port. -/
def portEntry (port : UInt16) : Ini.Entry :=
  ⟨portKey, toString port.toNat⟩

/-- An entry with an integer in decimal. -/
def integerEntry (key : String) (value : Int64) : Ini.Entry :=
  ⟨key, toString value.toInt⟩

namespace Description

/-- The entries of an instance in the watchdog's section. -/
def flatEntries (description : Description) (index : UInt32) : List Ini.Entry :=
  [ ⟨indexedKey index nameKey, description.name⟩,
    integerEntry (indexedKey index delayKey) description.delay,
    integerEntry (indexedKey index intervalKey) description.interval ]

/-- The section of an instance. -/
def ownSection (description : Description) : Ini.Section where
  name := applicationMark ++ description.name
  entries :=
    [ integerEntry delayKey description.delay, integerEntry intervalKey description.interval ]

end Description

/-- The document of a list of instances in the flat layout. -/
def flatDocument (port : UInt16) (descriptions : List Description) : Ini.Document where
  general := []
  sections :=
    [ { name := watchdogSection
        entries := portEntry port :: descriptions.zipIdx.flatMap fun numbered ↦
          numbered.1.flatEntries (UInt32.ofNat (numbered.2 + 1)) } ]

/-- The document of a list of instances in the layout of application sections. -/
def sectionsDocument (port : UInt16) (descriptions : List Description) : Ini.Document where
  general := []
  sections := ⟨watchdogSection, [portEntry port]⟩ :: descriptions.map Description.ownSection

end Heartbeat
