import Heartbeat.Text.Ranges

/-!
# White space

`isBlank` is the Unicode property White_Space. `trim` removes the blanks at both ends of a text and
none inside it; `trimmed` is the same on strings.
-/

set_option autoImplicit false
set_option relaxedAutoImplicit false

namespace Heartbeat.Text

/-- The characters with the property White_Space. -/
def blankRanges : Ranges :=
  [(0x9, 0xd), (0x20, 0x20), (0x85, 0x85), (0xa0, 0xa0), (0x1680, 0x1680), (0x2000, 0x200a),
   (0x2028, 0x2029), (0x202f, 0x202f), (0x205f, 0x205f), (0x3000, 0x3000)]

/-- A character is blank when it has the property White_Space. -/
def isBlank (c : Char) : Bool :=
  blankRanges.contains c

/-- The text from its first character that is not blank. -/
def trimStart (text : List Char) : List Char :=
  text.dropWhile isBlank

/-- The text up to its last character that is not blank. -/
def trimEnd (text : List Char) : List Char :=
  (text.reverse.dropWhile isBlank).reverse

/-- The text without the blanks at its two ends. -/
def trim (text : List Char) : List Char :=
  trimEnd (trimStart text)

/-- The string without the blanks at its two ends. -/
def trimmed (text : String) : String :=
  String.ofList (trim text.toList)

end Heartbeat.Text
