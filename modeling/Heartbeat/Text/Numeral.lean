/-!
# Decimal numerals

The integers that a text can denote. `readDigits?` takes one or more of the digits 0 to 9 and
nothing else; `readNatural?` allows a plus sign before them and `readInteger?` a plus or a minus
sign. The readers of fixed width (`readInt64?`, `readUInt64?`, `readUInt32?`) refuse what does not
fit.
-/

set_option autoImplicit false
set_option relaxedAutoImplicit false

namespace Heartbeat.Text

/-- The digits 0 to 9. -/
def isDigit (c : Char) : Bool :=
  '0' ≤ c && c ≤ '9'

/-- The value of a sequence of digits, the most significant first. -/
def digitsValue (digits : List Char) : Nat :=
  digits.foldl (fun value c ↦ value * 10 + (c.toNat - 48)) 0

/-- The value of one or more digits. -/
def readDigits? (text : List Char) : Option Nat :=
  if text ≠ [] ∧ text.all isDigit then some (digitsValue text) else none

/-- Digits, with or without a plus sign. -/
def readNatural? : List Char → Option Nat
  | '+' :: digits => readDigits? digits
  | digits => readDigits? digits

/-- Digits, with or without a sign. -/
def readInteger? : List Char → Option Int
  | '-' :: digits => (readDigits? digits).map fun value ↦ -(value : Int)
  | text => (readNatural? text).map fun value ↦ (value : Int)

/-- A signed integer of 64 bits. -/
def readInt64? (text : List Char) : Option Int64 :=
  match readInteger? text with
  | some value =>
    if Int64.minValue.toInt ≤ value ∧ value ≤ Int64.maxValue.toInt then some (Int64.ofInt value)
    else none
  | none => none

/-- An unsigned integer of 64 bits. -/
def readUInt64? (text : List Char) : Option UInt64 :=
  match readNatural? text with
  | some value => if value < UInt64.size then some (UInt64.ofNat value) else none
  | none => none

/-- An unsigned integer of 32 bits. -/
def readUInt32? (text : List Char) : Option UInt32 :=
  match readNatural? text with
  | some value => if value < UInt32.size then some (UInt32.ofNat value) else none
  | none => none

end Heartbeat.Text
