import Heartbeat.Text.Quoted

/-!
# Errors of INI documents

A text that is no document is refused at a `Position`, with a `SyntaxCause`. Positions are counted
from the characters read so far: a line break starts the next line at column zero, and every other
character adds one to the column. `SyntaxError.message` shows both numbers one higher.
-/

set_option autoImplicit false
set_option relaxedAutoImplicit false

namespace Heartbeat.Ini

open Heartbeat.Text

/-- The line and the column of a character, or of the start of a text. -/
structure Position where
  line : Nat
  column : Nat
deriving DecidableEq

/-- The place before the first character. -/
def Position.start : Position := ⟨0, 0⟩

/-- The position of a character that follows the given position. -/
def Position.next (position : Position) (c : Char) : Position :=
  if c == '\n' then ⟨position.line + 1, 0⟩ else ⟨position.line, position.column + 1⟩

/-- The ends that a reader can wait for. -/
inductive Ending
  | separator
  | closingBracket
  | quote (mark : Char)
  | endOfLine
deriving DecidableEq

namespace Ending

/-- The characters that make an ending. -/
def chars : Ending → List Char
  | .separator => ['=', ':']
  | .closingBracket => [']']
  | .quote mark => [mark]
  | .endOfLine => ['\n', '\r']

/-- Whether the end of the text is an ending too. -/
def acceptsEnd : Ending → Bool
  | .endOfLine => true
  | _ => false

/-- An optional character as messages show it. -/
def shownOption : Option Char → String
  | some c => "Some(" ++ quotedChar c ++ ")"
  | none => "None"

/-- The list of what an ending accepts, the end of the text last. -/
def shown (ending : Ending) : String :=
  let options := ending.chars.map some ++ (if ending.acceptsEnd then [none] else [])
  "[" ++ ", ".intercalate (options.map shownOption) ++ "]"

end Ending

/-- What is wrong with a text that is no document. -/
inductive SyntaxCause
  | lateComment
  | missingKey
  | unfinished (expected : Ending)
  | brokenCode (found : Option Char)
  | unknownCode
deriving DecidableEq

/-- The text of a cause. -/
def SyntaxCause.message : SyntaxCause → String
  | .lateComment => "doesn't support inline comment"
  | .missingKey => "missing key"
  | .unfinished expected => "expecting \"" ++ expected.shown ++ "\" but found EOF."
  | .brokenCode found => "expecting \"\\\\n\" but found \"" ++ Ending.shownOption found ++ "\"."
  | .unknownCode => "unknown character in \\xHH form"

/-- A cause and the position where it was noticed. -/
structure SyntaxError where
  position : Position
  cause : SyntaxCause
deriving DecidableEq

/-- The text of an error, with lines and columns counted from one. -/
def SyntaxError.message (error : SyntaxError) : String :=
  toString (error.position.line + 1) ++ ":" ++ toString (error.position.column + 1) ++ " "
    ++ error.cause.message

end Heartbeat.Ini
