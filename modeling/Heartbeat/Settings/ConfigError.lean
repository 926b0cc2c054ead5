import Heartbeat.Ini.SyntaxError
import Heartbeat.Text.Quoted

/-!
# Errors of settings

A `ConfigError` is fatal for an instance: a key that is missing, a value that is not what it has to
be, or settings that cannot be loaded, for one of the causes of `LoadError`. Their texts are in
`ConfigError.message` and `LoadError.message`.
-/

set_option autoImplicit false
set_option relaxedAutoImplicit false

namespace Heartbeat.Settings

open Heartbeat.Text

/-- What stands in a section where a text was expected. -/
inductive Shape
  | table
  | list
  | nothing
deriving DecidableEq

/-- The word for a shape in messages. -/
def Shape.label : Shape → String
  | .table => "map"
  | .list => "sequence"
  | .nothing => "unit value"

/-- Why settings cannot be loaded. The file of a syntax error is there when the text came from a
file; `reported` is a cause of which only the text is known. -/
inductive LoadError
  | notFound (path : String)
  | notUnicode
  | malformed (error : Ini.SyntaxError) (file : Option String)
  | wrongShape (found : Shape)
  | reported (text : String)
deriving DecidableEq

/-- The text of a cause. -/
def LoadError.message : LoadError → String
  | .notFound path => "configuration file \"" ++ path ++ "\" not found"
  | .notUnicode => "stream did not contain valid UTF-8"
  | .malformed error none => error.message
  | .malformed error (some file) => error.message ++ " in " ++ file
  | .wrongShape found => "invalid type: " ++ found.label ++ ", expected a string"
  | .reported text => text

/-- A fatal error of settings. -/
inductive ConfigError
  | missingKey (sectionName key : String)
  | invalidValue (sectionName key value : String)
  | load (cause : LoadError)
deriving DecidableEq

namespace ConfigError

/-- A key as messages show it. -/
def shownKey (sectionName key : String) : String :=
  "[" ++ sectionName ++ "] " ++ key

/-- The text of an error. -/
def message : ConfigError → String
  | .missingKey sectionName key => "Missing key " ++ shownKey sectionName key
  | .invalidValue sectionName key value =>
    "Invalid value for " ++ shownKey sectionName key ++ ": " ++ quoted value
  | .load cause => "Cannot load configuration: " ++ cause.message

/-- The error only says that the key is not there. -/
def isMissing : ConfigError → Bool
  | .missingKey _ _ => true
  | _ => false

end ConfigError

end Heartbeat.Settings
