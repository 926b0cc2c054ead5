import Heartbeat.Text.Numeral

/-!
# The payload of a heartbeat

A heartbeat carries the letter p and the process id of its sender in decimal. `Payload.text` and
`Payload.bytes` write it; `readPayload?` takes any bytes and gives the process id if they are such a
payload. Zeros before the number are read and never written.
-/

set_option autoImplicit false
set_option relaxedAutoImplicit false

namespace Heartbeat

open Heartbeat.Text

/-- A heartbeat from a process. -/
structure Payload where
  pid : UInt32
deriving DecidableEq

namespace Payload

/-- The letter that marks a heartbeat. -/
def mark : Char := 'p'

/-- The characters of a payload. -/
def chars (payload : Payload) : List Char :=
  mark :: Nat.toDigits 10 payload.pid.toNat

/-- A payload as text. -/
def text (payload : Payload) : String :=
  String.ofList payload.chars

/-- A payload as it is sent. All its characters are ASCII, a byte each. -/
def bytes (payload : Payload) : List UInt8 :=
  payload.chars.map fun c ↦ UInt8.ofNat c.toNat

end Payload

/-- The process id in a payload: the mark, then one or more digits of a number of 32 bits. -/
def readPayload? : List UInt8 → Option UInt32
  | [] => none
  | first :: rest =>
    if first = UInt8.ofNat Payload.mark.toNat then
      match readDigits? (rest.map fun byte ↦ Char.ofNat byte.toNat) with
      | some value => if value < UInt32.size then some (UInt32.ofNat value) else none
      | none => none
    else none

end Heartbeat
