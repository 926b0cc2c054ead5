import Heartbeat.Text.GraphemeExtend
import Heartbeat.Text.Printable

/-!
# Quoted text

Messages show a text in quotes, with every character that could be misread written as an escape.
`quoted` writes a string in double quotes and `quotedChar` a character in single ones. Both escape
the backslash, their own quote and the common controls with one letter, and all other characters
that do not print, or that combine with the character before them, by their code point.
-/

set_option autoImplicit false
set_option relaxedAutoImplicit false

namespace Heartbeat.Text

/-- The code point of a character in hexadecimal, as `\u{…}`. -/
def escapedCode (c : Char) : List Char :=
  '\\' :: 'u' :: '{' :: (Nat.toDigits 16 c.toNat ++ ['}'])

/-- A character as it stands in quoted text, where `quote` is the quote around it. -/
def escaped (quote c : Char) : List Char :=
  if c == quote then ['\\', c]
  else match c with
    | '\\' => ['\\', '\\']
    | '\t' => ['\\', 't']
    | '\n' => ['\\', 'n']
    | '\r' => ['\\', 'r']
    | '\x00' => ['\\', '0']
    | _ => if isCombining c || !isPrintable c then escapedCode c else [c]

/-- A string in double quotes. -/
def quoted (text : String) : String :=
  String.ofList ('"' :: (text.toList.flatMap (escaped '"') ++ ['"']))

/-- A character in single quotes. -/
def quotedChar (c : Char) : String :=
  String.ofList ('\'' :: (escaped '\'' c ++ ['\'']))

end Heartbeat.Text
