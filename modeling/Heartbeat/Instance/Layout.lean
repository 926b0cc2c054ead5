import Heartbeat.Settings.Accessor
import Heartbeat.Text.Ascii
import Heartbeat.Text.Lowercase

/-!
# Layouts of settings

Settings describe instances in one of two layouts: in keys of the watchdog's section that start with
the index of the instance, or in a section of its own for each instance, the application sections.
`Layout.auto` stands for the second when there is any application section, and for the first
otherwise (`Layout.effective`).
-/

set_option autoImplicit false
set_option relaxedAutoImplicit false

namespace Heartbeat

open Heartbeat.Settings Heartbeat.Text

/-- Where the parameters of an instance stand. -/
inductive Layout
  | auto
  | flat
  | sections
deriving DecidableEq

namespace Layout

/-- The name of a layout. -/
def name : Layout → String
  | .auto => "auto"
  | .flat => "flat"
  | .sections => "sections"

/-- The layout with a name, in any case. Some layouts have several names. -/
def ofName? (name : String) : Option Layout :=
  let name := lowercased name
  if name = "auto" then some .auto
  else if name = "flat" ∨ name = "keys" then some .flat
  else if name = "sections" ∨ name = "app" ∨ name = "app_sections" then some .sections
  else none

/-- The text for a name that no layout has. -/
def unknownMessage (name : String) : String :=
  "Unknown layout: " ++ name

end Layout

/-- What the names of application sections start with. -/
def applicationMark : String := "app:"

/-- A section is an application section when its name starts with the mark, up to ASCII case. -/
def isApplication (sectionName : String) : Bool :=
  sameIgnoringCase (String.ofList (sectionName.toList.take applicationMark.length)) applicationMark

/-- The name of the instance in the name of its application section. -/
def applicationName (sectionName : String) : String :=
  String.ofList (sectionName.toList.drop applicationMark.length)

/-- The application sections in order. -/
def applicationSections (accessor : Accessor) : List String :=
  accessor.sections.filter isApplication

/-- The layout that settings are read in. -/
def Layout.effective (layout : Layout) (accessor : Accessor) : Layout :=
  match layout with
  | .auto => if applicationSections accessor = [] then .flat else .sections
  | other => other

end Heartbeat
