import Heartbeat.Payload

/-!
# Payloads read back

The digits of a number are read as the number (`Text.readDigits?_toDigits`), and the bytes of a
heartbeat as the process id of its sender (`readPayload?_bytes`).
-/

set_option autoImplicit false
set_option relaxedAutoImplicit false

namespace Heartbeat

namespace Text

/-- The decimal form of a number consists of digits. -/
theorem isDigit_of_mem_toDigits {n : Nat} {c : Char} (member : c ∈ Nat.toDigits 10 n) :
    isDigit c = true :=
  Nat.isDigit_of_mem_toDigits (by omega) (by omega) member

/-- The value of digits is the number that they are the digits of. -/
theorem digitsValue_toDigits (n : Nat) : digitsValue (Nat.toDigits 10 n) = n := by
  have folded := @Nat.ofDigitChars_eq_foldl 10 (Nat.toDigits 10 n) 0
  rw [Nat.ofDigitChars_ten_toDigits] at folded
  unfold digitsValue
  simp only [Nat.mul_comm _ 10]
  exact folded.symm

/-- The digits of a number are read as the number. -/
theorem readDigits?_toDigits (n : Nat) : readDigits? (Nat.toDigits 10 n) = some n := by
  have digits : (Nat.toDigits 10 n).all isDigit = true := by
    rw [List.all_eq_true]
    exact fun c ↦ isDigit_of_mem_toDigits
  unfold readDigits?
  rw [if_pos ⟨Nat.toDigits_ne_nil, digits⟩, digitsValue_toDigits]

/-- A digit is one byte, and the byte gives the digit. -/
theorem ofNat_toNat_of_isDigit {c : Char} (digit : isDigit c = true) :
    Char.ofNat (UInt8.ofNat c.toNat).toNat = c := by
  have small : c.toNat < 256 := by
    unfold isDigit at digit
    rw [Bool.and_eq_true, decide_eq_true_eq, decide_eq_true_eq] at digit
    have most : c.val.toNat ≤ 57 := UInt32.le_iff_toNat_le.mp digit.2
    exact Nat.lt_of_le_of_lt most (by omega)
  rw [UInt8.toNat_ofNat_of_lt' small, Char.ofNat_toNat]

end Text

/-- The bytes of a heartbeat are read as the process id of its sender. -/
theorem readPayload?_bytes (payload : Payload) :
    readPayload? payload.bytes = some payload.pid := by
  have chars : ((Nat.toDigits 10 payload.pid.toNat).map fun c ↦ UInt8.ofNat c.toNat).map
      (fun byte ↦ Char.ofNat byte.toNat) = Nat.toDigits 10 payload.pid.toNat := by
    rw [List.map_map]
    refine (List.map_congr_left fun c member ↦ ?_).trans (List.map_id _)
    exact Text.ofNat_toNat_of_isDigit (Text.isDigit_of_mem_toDigits member)
  have small : payload.pid.toNat < UInt32.size := payload.pid.toNat_lt
  unfold Payload.bytes Payload.chars readPayload?
  rw [List.map_cons]
  dsimp only
  rw [if_pos rfl, chars, Text.readDigits?_toDigits]
  dsimp only
  rw [if_pos small, UInt32.ofNat_toNat]

end Heartbeat
