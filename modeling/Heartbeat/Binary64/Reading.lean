import Heartbeat.Binary64.Shortest
import Heartbeat.Text.Numeral

/-!
# Reading a number

The texts that denote a number of binary64: an optional sign, digits with an optional point among
or around them, and an optional exponent. The words for infinity and for no number are read in any
case. `Binary64.read?` gives the nearest number of the format, or says that the text denotes none
that is finite.
-/

set_option autoImplicit false
set_option relaxedAutoImplicit false

namespace Heartbeat.Binary64

open Heartbeat.Text

/-- What a text denotes: a finite number of the format, or an infinity or no number. -/
inductive Reading
  | finite (value : Rat)
  | notFinite

/-- The digits at the start of a text and what follows them. -/
def splitDigits (text : List Char) : List Char × List Char :=
  (text.takeWhile isDigit, text.dropWhile isDigit)

/-- The exponent at the end of a numeral; the empty text stands for the exponent zero. -/
def readExponent? : List Char → Option Int
  | [] => some 0
  | c :: rest => if c == 'e' || c == 'E' then readInteger? rest else none

/-- The number nearest to a coefficient times a power of ten. A value that is far outside the range
of the format is settled by its number of digits. -/
def nearest (coefficient : Nat) (exponent : Int) : Reading :=
  if coefficient = 0 then .finite 0
  else
    let size := ((Nat.toDigits 10 coefficient).length : Int) + exponent
    if size < -400 then .finite 0
    else if 400 < size then .notFinite
    else
      let value := round ((coefficient : Rat) * tenPow exponent)
      if value < twoPow 1024 then .finite value else .notFinite

/-- A numeral without a sign. -/
def readUnsigned? (text : List Char) : Option Reading :=
  let (whole, rest) := splitDigits text
  let (fraction, tail) := match rest with
    | '.' :: after => splitDigits after
    | _ => ([], rest)
  if whole = [] ∧ fraction = [] then none
  else (readExponent? tail).map fun exponent ↦
    nearest (digitsValue (whole ++ fraction)) (exponent - (fraction.length : Int))

/-- The opposite of what a text denotes. -/
def Reading.negated : Reading → Reading
  | .finite value => .finite (-value)
  | .notFinite => .notFinite

/-- The words that denote an infinity or no number, in lower case. -/
def wordsNotFinite : List String :=
  ["inf", "infinity", "nan"]

/-- What a text denotes, if it is a numeral or one of the words. -/
def read? (text : List Char) : Option Reading :=
  let (negative, unsigned) := match text with
    | '-' :: rest => (true, rest)
    | '+' :: rest => (false, rest)
    | _ => (false, text)
  if wordsNotFinite.any fun word ↦ word.toList == unsigned.map Char.toLower then some .notFinite
  else (readUnsigned? unsigned).map fun reading ↦ if negative then reading.negated else reading

end Heartbeat.Binary64
