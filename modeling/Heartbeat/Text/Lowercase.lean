import Heartbeat.Text.Casing

/-!
# Lower case

`lowercase` is the full lower-casing of a text. Each character is mapped by itself, with one
exception: a capital sigma becomes the final form when a cased letter comes before it and none
after it, case-ignorable characters not counted.
-/

set_option autoImplicit false
set_option relaxedAutoImplicit false

namespace Heartbeat.Text

/-- The lower case of one character out of context. The capital I with a dot keeps its dot as a
combining character. -/
def lowercaseChar (c : Char) : List Char :=
  if c.toNat < 0x80 then
    if 'A' ≤ c && c ≤ 'Z' then [Char.ofNat (c.toNat + 32)] else [c]
  else if c.toNat == 0x130 then ['i', '\u0307']
  else match lowercaseRuns.find? (·.holds c.toNat) with
    | some run => [Char.ofNat (c.toNat + run.offset).toNat]
    | none => [c]

/-- The first character that is not case-ignorable is cased. -/
def meetsCased (text : List Char) : Bool :=
  match text.dropWhile isCaseIgnorable with
  | c :: _ => isCased c
  | [] => false

/-- The lower case of the rest of a text, given the characters before it from the last to the
first. -/
def lowercaseAfter (before : List Char) : List Char → List Char
  | [] => []
  | c :: rest =>
    let lower :=
      if c == 'Σ' then (if meetsCased before && !meetsCased rest then ['ς'] else ['σ'])
      else lowercaseChar c
    lower ++ lowercaseAfter (c :: before) rest

/-- The lower case of a text. -/
def lowercase (text : List Char) : List Char :=
  lowercaseAfter [] text

/-- The lower case of a string. -/
def lowercased (text : String) : String :=
  String.ofList (lowercase text.toList)

end Heartbeat.Text
