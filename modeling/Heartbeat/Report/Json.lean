import Heartbeat.Binary64.Shortest

/-!
# JSON text

A `Json` value and its text over several lines: two spaces for each level, one item to a line, and
an empty list or object on one line. Objects are written in the order of their fields. A number in
floating point has the fewest digits that read back, with a point in it, and an exponent only below
one hundred-thousandth and from ten to the sixteenth on.
-/

set_option autoImplicit false
set_option relaxedAutoImplicit false

namespace Heartbeat.Report

/-- A JSON value. -/
inductive Json
  | null
  | bool (value : Bool)
  | integer (value : Int)
  | number (value : Rat)
  | text (value : String)
  | list (items : List Json)
  | object (fields : List (String × Json))

namespace Json

/-- A character in a JSON string. -/
def escaped (c : Char) : List Char :=
  match c with
  | '"' => ['\\', '"']
  | '\\' => ['\\', '\\']
  | '\n' => ['\\', 'n']
  | '\r' => ['\\', 'r']
  | '\t' => ['\\', 't']
  | '\x08' => ['\\', 'b']
  | '\x0c' => ['\\', 'f']
  | _ =>
    if c.toNat < 0x20 then
      let digits := Nat.toDigits 16 c.toNat
      '\\' :: 'u' :: (List.replicate (4 - digits.length) '0' ++ digits)
    else [c]

/-- A JSON string. -/
def quoted (value : String) : String :=
  String.ofList ('"' :: (value.toList.flatMap escaped ++ ['"']))

/-- A decimal in JSON. The point stands after the digit of the units where that takes at most
sixteen places, and before at most four zeros; otherwise the number has an exponent. -/
def decimalText (decimal : Binary64.Decimal) : String :=
  let digits := Nat.toDigits 10 decimal.coefficient
  let size := (digits.length : Int) + decimal.exponent
  let zeros (count : Int) := List.replicate count.toNat '0'
  let chars :=
    if 0 ≤ decimal.exponent ∧ size ≤ 16 then digits ++ zeros decimal.exponent ++ ['.', '0']
    else if 0 < size ∧ size ≤ 16 then digits.take size.toNat ++ '.' :: digits.drop size.toNat
    else if -5 < size ∧ size ≤ 0 then '0' :: '.' :: (zeros (-size) ++ digits)
    else
      let point := if digits.length = 1 then [] else '.' :: digits.drop 1
      digits.take 1 ++ point ++ 'e' :: (toString (size - 1)).toList
  String.ofList chars

/-- A number of binary64 in JSON. -/
def numberText (value : Rat) : String :=
  if value = 0 then "0.0"
  else
    let text := decimalText (Binary64.shortest (Binary64.magnitude value)).stripped
    if value < 0 then "-" ++ text else text

/-- The blanks at the start of a line. -/
def indent (level : Nat) : String :=
  String.ofList (List.replicate (2 * level) ' ')

/-- Lines between an opening and a closing mark, and nothing between them if there is none. -/
def enclosed (level : Nat) (opening closing : String) (lines : List String) : String :=
  if lines = [] then opening ++ closing
  else
    opening ++ "\n" ++ ",\n".intercalate (lines.map (indent (level + 1) ++ ·)) ++ "\n"
      ++ indent level ++ closing

mutual

/-- The text of a value whose first line starts at a level. -/
def pretty (level : Nat) : Json → String
  | .null => "null"
  | .bool value => if value then "true" else "false"
  | .integer value => toString value
  | .number value => numberText value
  | .text value => quoted value
  | .list items => enclosed level "[" "]" (prettyItems (level + 1) items)
  | .object fields => enclosed level "\x7b" "\x7d" (prettyFields (level + 1) fields)

/-- The texts of the items of a list. -/
def prettyItems (level : Nat) : List Json → List String
  | [] => []
  | item :: rest => pretty level item :: prettyItems level rest

/-- The texts of the fields of an object. -/
def prettyFields (level : Nat) : List (String × Json) → List String
  | [] => []
  | (name, value) :: rest =>
    (quoted name ++ ": " ++ pretty level value) :: prettyFields level rest

end

end Json

end Heartbeat.Report
