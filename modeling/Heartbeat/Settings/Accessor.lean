import Heartbeat.Settings.ConfigError

/-!
# Access to settings

An `Accessor` is all that an instance sees of its settings: the integer and the text under a key of
a section, and the names of the sections in order. Any source of settings can offer one;
`Accessor.ofList` does so for a plain list of answers. `getIntOr` and `getStringOr` put a default
in the place of a missing key and of nothing else.
-/

set_option autoImplicit false
set_option relaxedAutoImplicit false

namespace Heartbeat.Settings

/-- Lookups in settings. -/
structure Accessor where
  getInt : String → String → Except ConfigError Int64
  getString : String → String → Except ConfigError String
  sections : List String

namespace Accessor

/-- An answer, with a default in the place of a missing key. -/
def orDefault {α : Type} (fallback : α) (answer : Except ConfigError α) : Except ConfigError α :=
  match answer with
  | .ok value => .ok value
  | .error error => if error.isMissing then .ok fallback else .error error

/-- The integer under a key, or a default if the key is missing. -/
def getIntOr (accessor : Accessor) (sectionName key : String) (fallback : Int64) :
    Except ConfigError Int64 :=
  orDefault fallback (accessor.getInt sectionName key)

/-- The text under a key, or a default if the key is missing. -/
def getStringOr (accessor : Accessor) (sectionName key fallback : String) :
    Except ConfigError String :=
  orDefault fallback (accessor.getString sectionName key)

/-- An answer in a list: the section and the key that it belongs to, and the integer and the text
under them or an error. -/
structure Answer where
  sectionName : String
  key : String
  content : Except ConfigError (Int64 × String)

/-- The first answer for a key of a section, names being compared exactly. -/
def answerFor (answers : List Answer) (sectionName key : String) :
    Except ConfigError (Int64 × String) :=
  match answers.find? fun answer ↦ answer.sectionName == sectionName && answer.key == key with
  | some answer => answer.content
  | none => .error (.missingKey sectionName key)

/-- The accessor of a list of answers with the given section names. -/
def ofList (sections : List String) (answers : List Answer) : Accessor where
  getInt sectionName key := (answerFor answers sectionName key).map Prod.fst
  getString sectionName key := (answerFor answers sectionName key).map Prod.snd
  sections := sections

end Accessor

end Heartbeat.Settings
