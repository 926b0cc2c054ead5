import Heartbeat.Text.Lowercase
import Heartbeat.Text.Numeral

/-!
# Access paths

The name of a section, or of an entry outside any section, is read as a path into a tree: an
identifier, followed by any number of steps. A step `.name` goes to the entry of a table with that
name, and a step `[index]` to a place of a list, counted from the end if the index is negative. A
name that is not wholly such a path is one identifier as it stands. Identifiers do not tell upper
from lower case: `AccessPath.ofName` gives them in lower case.
-/

set_option autoImplicit false
set_option relaxedAutoImplicit false

namespace Heartbeat.Settings

open Heartbeat.Text

/-- One step of a path: to the entry of a table or to a place of a list. -/
inductive PathStep
  | child (key : String)
  | place (index : Int)
deriving DecidableEq

/-- An identifier and the steps after it. -/
structure AccessPath where
  root : String
  steps : List PathStep
deriving DecidableEq

namespace AccessPath

/-- The characters of an identifier in a path. -/
def isIdentifierChar (c : Char) : Bool :=
  isDigit c || ('a' ≤ c && c ≤ 'z') || ('A' ≤ c && c ≤ 'Z') || c == '_' || c == '-' || c == ' '

/-- The blanks that may stand around an index. -/
def isIndexBlank (c : Char) : Bool :=
  c == ' ' || c == '\t'

/-- The integer that the text between brackets denotes: digits with an optional minus sign, in the
signed range of 64 bits. -/
def readIndex? (text : List Char) : Option Int :=
  let text := text.dropWhile isIndexBlank
  let text := (text.reverse.dropWhile isIndexBlank).reverse
  match text with
  | '+' :: _ => none
  | _ => (readInt64? text).map Int64.toInt

/-- The steps that a text spells; the first argument bounds their number. -/
def readSteps? : Nat → List Char → Option (List PathStep)
  | _, [] => some []
  | 0, _ => none
  | fuel + 1, '.' :: rest =>
    let key := rest.takeWhile isIdentifierChar
    if key = [] then none
    else (readSteps? fuel (rest.dropWhile isIdentifierChar)).map
      (.child (String.ofList (lowercase key)) :: ·)
  | fuel + 1, '[' :: rest =>
    match rest.dropWhile (· != ']') with
    | [] => none
    | _ :: after =>
      (readIndex? (rest.takeWhile (· != ']'))).bind fun index ↦
        (readSteps? fuel after).map (.place index :: ·)
  | _, _ => none

/-- The path that a text spells. -/
def read? (text : List Char) : Option AccessPath :=
  let root := text.takeWhile isIdentifierChar
  if root = [] then none
  else (readSteps? text.length (text.dropWhile isIdentifierChar)).map fun steps ↦
    ⟨String.ofList (lowercase root), steps⟩

/-- The path of a name. -/
def ofName (name : String) : AccessPath :=
  (read? name.toList).getD ⟨lowercased name, []⟩

end AccessPath

end Heartbeat.Settings
