import Heartbeat.Ini.Document
import Heartbeat.Ini.SyntaxError
import Heartbeat.Text.Blank
import Heartbeat.Text.Numeral

/-!
# Reading INI documents

A document is read character by character by an automaton. Its state is the document so far and the
`Pending` item: white space between items, a comment, a section name, a key, or a value before its
first character, in quotes or plain. `Reader.step` takes one character and `Reader.finish` the end
of the text; `Document.read` runs them over a text.

A comment fills a whole line. Names, keys and values are read up to their `Ending` with escapes
(`Piece.step`): a backslash before a line break stands for nothing, before `x` for the character
with the code of the next four characters, before one of five letters or the digit zero for a
control character, and before anything else for that character. Blanks around a name, a key and a
value do not belong to it.
-/

set_option autoImplicit false
set_option relaxedAutoImplicit false

namespace Heartbeat.Ini

open Heartbeat.Text

/-! ### Escapes -/

/-- Where the reading of a piece of text stands within an escape. -/
inductive Escape
  | none
  | started
  | code (digits : List Char)
  | codeBreak (digits : List Char)
deriving DecidableEq

/-- A piece of text that is being read: its characters so far, the last one first. -/
structure Piece where
  reversed : List Char
  escape : Escape
deriving DecidableEq

namespace Piece

/-- A piece with nothing read. -/
def empty : Piece := ⟨[], .none⟩

/-- A piece with one more character, outside any escape. -/
def push (piece : Piece) (c : Char) : Piece :=
  ⟨c :: piece.reversed, .none⟩

/-- The characters of a piece. -/
def text (piece : Piece) : List Char :=
  piece.reversed.reverse

/-- The piece without blanks at its ends, as a string. -/
def trimmed (piece : Piece) : String :=
  String.ofList (trim piece.text)

/-- The value of a hexadecimal digit. -/
def hexDigit? (c : Char) : Option Nat :=
  if isDigit c then some (c.toNat - 48)
  else if 'a' ≤ c && c ≤ 'f' then some (c.toNat - 87)
  else if 'A' ≤ c && c ≤ 'F' then some (c.toNat - 55)
  else Option.none

/-- The value of hexadecimal digits. -/
def hexValue? (digits : List Char) : Option Nat :=
  digits.foldlM (fun value c ↦ (hexDigit? c).map fun digit ↦ value * 16 + digit) 0

/-- The character with the code that four characters spell; a plus sign may come first. -/
def decodeCode? (digits : List Char) : Option Char :=
  let value? := match digits with
    | '+' :: rest => hexValue? rest
    | _ => hexValue? digits
  value?.bind fun value ↦ if value.isValidChar then some (Char.ofNat value) else Option.none

/-- The piece with one more character of a code, the code being complete after four. -/
def pushCode (piece : Piece) (digits : List Char) (c : Char) : Except SyntaxCause Piece :=
  let digits := digits ++ [c]
  if digits.length < 4 then .ok { piece with escape := .code digits }
  else match decodeCode? digits with
    | some decoded => .ok (piece.push decoded)
    | Option.none => .error .unknownCode

/-- The piece after the character that follows a backslash. -/
def escaped (piece : Piece) (c : Char) : Piece :=
  match c with
  | '0' => piece.push '\x00'
  | 'a' => piece.push '\x07'
  | 'b' => piece.push '\x08'
  | 't' => piece.push '\t'
  | 'r' => piece.push '\r'
  | 'n' => piece.push '\n'
  | '\n' => { piece with escape := .none }
  | 'x' => { piece with escape := .code [] }
  | _ => piece.push c

/-- The piece with one more character, which is not its end. -/
def step (piece : Piece) (c : Char) : Except SyntaxCause Piece :=
  match piece.escape with
  | .none => if c == '\\' then .ok { piece with escape := .started } else .ok (piece.push c)
  | .started => .ok (piece.escaped c)
  | .code digits =>
    if c == '\\' then .ok { piece with escape := .codeBreak digits }
    else piece.pushCode digits c
  | .codeBreak digits =>
    if c == '\n' then piece.pushCode digits c else .error (.brokenCode (some c))

/-- A character ends a piece when it belongs to the ending and is no part of an escape. -/
def endsAt (piece : Piece) (ending : Ending) (c : Char) : Bool :=
  piece.escape == .none && ending.chars.contains c

/-- What is wrong when the text ends within a piece, if anything is. -/
def causeAtEnd? (piece : Piece) (ending : Ending) : Option SyntaxCause :=
  match piece.escape with
  | .none => if ending.acceptsEnd then Option.none else some (.unfinished ending)
  | .started | .code _ => some (.unfinished ending)
  | .codeBreak _ => some (.brokenCode Option.none)

end Piece

/-! ### The automaton -/

/-- The item that is being read. -/
inductive Pending
  | between
  | comment
  | name (piece : Piece)
  | key (piece : Piece)
  | valueStart (key : String)
  | quoted (key : String) (mark : Char) (piece : Piece)
  | value (key : String) (piece : Piece)
deriving DecidableEq

/-- A document so far, the item that is being read, and the position of the last character. -/
structure Reader where
  document : Document
  pending : Pending
  position : Position
deriving DecidableEq

namespace Reader

/-- Nothing has been read. -/
def start : Reader := ⟨Document.empty, .between, Position.start⟩

/-- The reader after a value. -/
def assign (reader : Reader) (key : String) (piece : Piece) : Reader :=
  { reader with
    document := reader.document.assigned ⟨key, piece.trimmed⟩
    pending := .between }

/-- The first character of an item. A key or a value that is not there makes a separator an
error. -/
def begin (column : Nat) (c : Char) : Except SyntaxCause Pending :=
  if isBlank c then .ok .between
  else if c == ';' || c == '#' then
    if 1 < column then .error .lateComment else .ok .comment
  else if c == '[' then .ok (.name Piece.empty)
  else if Ending.separator.chars.contains c then .error .missingKey
  else (Piece.empty.step c).map .key

/-- The first character of a value: a line break leaves the value empty, other blanks are skipped,
and a quote opens a quoted value. -/
def beginValue (reader : Reader) (key : String) (c : Char) : Except SyntaxCause Reader :=
  if Ending.endOfLine.chars.contains c then .ok (reader.assign key Piece.empty)
  else if isBlank c then .ok reader
  else if c == '"' || c == '\'' then .ok { reader with pending := .quoted key c Piece.empty }
  else (Piece.empty.step c).map fun piece ↦ { reader with pending := .value key piece }

/-- What one more character, at the reader's position, does to the pending item. -/
def advance (reader : Reader) (c : Char) : Except SyntaxCause Reader :=
  match reader.pending with
  | .between =>
    (begin reader.position.column c).map fun pending ↦ { reader with pending := pending }
  | .comment => .ok (if c == '\n' then { reader with pending := .between } else reader)
  | .name piece =>
    if piece.endsAt .closingBracket c then
      .ok { reader with document := reader.document.opened piece.trimmed, pending := .between }
    else (piece.step c).map fun piece ↦ { reader with pending := .name piece }
  | .key piece =>
    if piece.endsAt .separator c then
      if piece.trimmed = "" then .error .missingKey
      else .ok { reader with pending := .valueStart piece.trimmed }
    else (piece.step c).map fun piece ↦ { reader with pending := .key piece }
  | .valueStart key => reader.beginValue key c
  | .quoted key mark piece =>
    if piece.endsAt (.quote mark) c then .ok { reader with pending := .value key piece }
    else (piece.step c).map fun piece ↦ { reader with pending := .quoted key mark piece }
  | .value key piece =>
    if piece.endsAt .endOfLine c then .ok (reader.assign key piece)
    else (piece.step c).map fun piece ↦ { reader with pending := .value key piece }

/-- The reader after one more character. An error is noticed at that character. -/
def step (reader : Reader) (c : Char) : Except SyntaxError Reader :=
  let moved := { reader with position := reader.position.next c }
  (moved.advance c).mapError fun cause ↦ ⟨moved.position, cause⟩

/-- The document at the end of the text. An error is noticed at the last character. -/
def finish (reader : Reader) : Except SyntaxError Document :=
  let ended (piece : Piece) (ending : Ending) (document : Document) :=
    match piece.causeAtEnd? ending with
    | some cause => .error ⟨reader.position, cause⟩
    | none => .ok document
  match reader.pending with
  | .between | .comment => .ok reader.document
  | .name piece => ended piece .closingBracket reader.document
  | .key piece => ended piece .separator reader.document
  | .valueStart key => .ok (reader.assign key Piece.empty).document
  | .quoted _ mark piece => ended piece (.quote mark) reader.document
  | .value key piece => ended piece .endOfLine (reader.assign key piece).document

end Reader

/-- The document that a text spells. -/
def Document.read (text : List Char) : Except SyntaxError Document :=
  (text.foldlM Reader.step Reader.start).bind Reader.finish

end Heartbeat.Ini
