import Heartbeat.Proofs.NumeralGrammar

/-!
# The grammar of a payload

`readPayload?` takes the byte of the mark with one or more decimal digits after it, and nothing
else; the number that the digits denote has to fit 32 bits (`readPayload?_eq_some_iff`). All bytes
of a payload are ASCII, so it makes no difference whether they are decoded as text first
(`readPayload?_eq_bind`): bytes that are no text are no payload.

Zeros in front of a number are read and never written. Writing what was read therefore gives back
the bytes without these zeros (`bytes_of_readPayload?`), and `payloads_read_exactly` puts reading
and writing together.
-/

set_option autoImplicit false
set_option relaxedAutoImplicit false

namespace Heartbeat

open Text

/-! ### Digits as bytes -/

namespace Text

/-- The character with the code of a byte. -/
def charOf (byte : UInt8) : Char :=
  Char.ofNat byte.toNat

theorem toNat_charOf (byte : UInt8) : (charOf byte).toNat = byte.toNat := by
  have valid : byte.toNat.isValidChar := Or.inl (by have := byte.toNat_lt; omega)
  unfold charOf
  rw [Char.ofNat, dif_pos valid]
  rfl

theorem isDigit_charOf_iff {byte : UInt8} :
    isDigit (charOf byte) = true ↔ 48 ≤ byte ∧ byte ≤ 57 := by
  rw [isDigit_iff, toNat_charOf, UInt8.le_iff_toNat_le, UInt8.le_iff_toNat_le]
  exact Iff.rfl

/-- Bytes spell a number if the characters with their codes do. -/
def BytesSpell (digits : List UInt8) (number : ℕ) : Prop :=
  Spells (digits.map charOf) number

theorem bytesSpell_iff {digits : List UInt8} {number : ℕ} :
    BytesSpell digits number ↔ digits ≠ [] ∧ (∀ byte ∈ digits, 48 ≤ byte ∧ byte ≤ 57) ∧
      Nat.ofDigits 10 (digits.reverse.map fun byte ↦ byte.toNat - 48) = number := by
  have value : digitsValue (digits.map charOf) =
      Nat.ofDigits 10 (digits.reverse.map fun byte ↦ byte.toNat - 48) := by
    rw [digitsValue_eq_ofDigits, ← List.map_reverse, List.map_map]
    exact congrArg _ (List.map_congr_left fun byte _ ↦ congrArg (· - 48) (toNat_charOf byte))
  unfold BytesSpell
  rw [← readDigits?_eq_some_iff, readDigits?, Option.ite_none_right_eq_some, Option.some_inj,
    List.all_map, List.all_eq_true, value, Ne, List.map_eq_nil_iff, and_assoc]
  simp only [Function.comp_apply, isDigit_charOf_iff]

end Text

/-- The digits without the zeros in front of them. A zero at the end stays. -/
def withoutZeros : List UInt8 → List UInt8
  | first :: second :: rest =>
    if first = 48 then withoutZeros (second :: rest) else first :: second :: rest
  | digits => digits

/-- The bytes of a number in decimal, as they are written. -/
def decimalBytes (number : ℕ) : List UInt8 :=
  (Nat.toDigits 10 number).map fun c ↦ UInt8.ofNat c.toNat

theorem Payload.bytes_eq (payload : Payload) :
    payload.bytes = 112 :: decimalBytes payload.pid.toNat := rfl

namespace Text.BytesSpell

variable {digits : List UInt8} {byte : UInt8} {number : ℕ}

theorem concat_iff : BytesSpell (digits ++ [byte]) number ↔ (48 ≤ byte ∧ byte ≤ 57) ∧
    (digits = [] ∧ number = byte.toNat - 48 ∨
      ∃ high, BytesSpell digits high ∧ number = 10 * high + (byte.toNat - 48)) := by
  have value : Nat.ofDigits 10 ((digits ++ [byte]).reverse.map fun byte ↦ byte.toNat - 48) =
      (byte.toNat - 48) +
        10 * Nat.ofDigits 10 (digits.reverse.map fun byte ↦ byte.toNat - 48) := by
    rw [List.reverse_concat, List.map_cons, Nat.ofDigits_cons]
  simp only [bytesSpell_iff]
  constructor
  · rintro ⟨-, decimal, rfl⟩
    obtain ⟨front, last⟩ := List.forall_mem_append.mp decimal
    refine ⟨last byte (List.mem_singleton_self byte), ?_⟩
    rw [value]
    by_cases empty : digits = []
    · subst empty
      exact .inl ⟨rfl, rfl⟩
    · exact .inr ⟨_, ⟨empty, front, rfl⟩, Nat.add_comm _ _⟩
  · rintro ⟨last, ⟨rfl, rfl⟩ | ⟨high, ⟨-, front, rfl⟩, rfl⟩⟩
    · exact ⟨List.concat_ne_nil _ _, List.forall_mem_singleton.mpr last, value⟩
    · exact ⟨List.concat_ne_nil _ _,
        List.forall_mem_append.mpr ⟨front, List.forall_mem_singleton.mpr last⟩,
        value.trans (Nat.add_comm _ _)⟩

/-- A zero in front changes nothing. -/
theorem of_cons_zero (spell : BytesSpell (48 :: digits) number) (nonempty : digits ≠ []) :
    BytesSpell digits number := by
  obtain ⟨-, decimal, rfl⟩ := bytesSpell_iff.mp spell
  refine bytesSpell_iff.mpr ⟨nonempty, (List.forall_mem_cons.mp decimal).2, ?_⟩
  rw [List.reverse_cons, List.map_append, Nat.ofDigits_append]
  rfl

/-- A single digit is written as it is. -/
theorem decimalBytes_of_digit (digit : 48 ≤ byte ∧ byte ≤ 57) :
    byte.toNat - 48 < 10 ∧ decimalBytes (byte.toNat - 48) = [byte] := by
  have least : 48 ≤ byte.toNat := UInt8.le_iff_toNat_le.mp digit.1
  have most : byte.toNat ≤ 57 := UInt8.le_iff_toNat_le.mp digit.2
  have low : byte.toNat - 48 < 10 := by omega
  refine ⟨low, ?_⟩
  unfold decimalBytes
  rw [Nat.toDigits_of_lt_base low, List.map_singleton, Nat.toNat_digitChar_of_lt_ten low,
    Nat.add_sub_cancel' least, UInt8.ofNat_toNat]

/-- Digits without a zero in front are written as they are. -/
theorem decimalBytes_of_head (spell : BytesSpell digits number) (head : digits.head? ≠ some 48) :
    decimalBytes number = digits := by
  induction digits using List.reverseRecOn generalizing number with
  | nil => exact absurd rfl (bytesSpell_iff.mp spell).1
  | append_singleton digits byte ih =>
    obtain ⟨digit, ⟨rfl, rfl⟩ | ⟨high, front, rfl⟩⟩ := concat_iff.mp spell
    · exact (decimalBytes_of_digit digit).2
    · obtain ⟨low, last⟩ := decimalBytes_of_digit digit
      have same : decimalBytes high = digits := ih front fun zero ↦
        head (by rw [List.head?_append, zero, Option.some_or])
      -- Zero is written with a zero in front.
      have positive : 0 < high := by
        rcases Nat.eq_zero_or_pos high with rfl | positive
        · rw [← same] at head
          exact absurd rfl head
        · exact positive
      unfold decimalBytes at same last ⊢
      rw [← Nat.toDigits_append_toDigits (by omega) positive low, List.map_append, same, last]

/-- Digits are written without the zeros in front of them. -/
theorem decimalBytes_eq (spell : BytesSpell digits number) :
    decimalBytes number = withoutZeros digits := by
  fun_induction withoutZeros digits with
  | case1 second rest ih => exact ih (spell.of_cons_zero (List.cons_ne_nil _ _))
  | case2 first second rest other =>
    exact spell.decimalBytes_of_head (by simpa using other)
  | case3 digits short =>
    obtain ⟨nonempty, decimal, value⟩ := bytesSpell_iff.mp spell
    match digits with
    | [] => exact absurd rfl nonempty
    | [byte] =>
      have digit := decimal byte (List.mem_singleton_self byte)
      have same : byte.toNat - 48 = number := value
      rw [← same, (decimalBytes_of_digit digit).2]
    | first :: second :: rest => exact absurd rfl (short first second rest)

end Text.BytesSpell

namespace Text

/-- ASCII bytes are the text with these codes. -/
theorem utf8Encode_map_charOf {bytes : List UInt8} (ascii : ∀ byte ∈ bytes, byte.toNat < 128) :
    (bytes.map charOf).utf8Encode = bytes.toByteArray := by
  have chars : ∀ byte ∈ bytes, String.utf8EncodeChar (charOf byte) = [byte] := by
    intro byte member
    have small : (charOf byte).val ≤ 127 := by
      rw [UInt32.le_iff_toNat_le]
      exact Nat.le_of_lt_succ ((toNat_charOf byte).trans_lt (ascii byte member))
    have code : (charOf byte).val.toUInt8 = byte := by
      rw [← UInt8.toNat_inj, UInt32.toNat_toUInt8]
      exact (congrArg (· % 2 ^ 8) (toNat_charOf byte)).trans (Nat.mod_eq_of_lt byte.toNat_lt)
    rw [String.utf8EncodeChar_eq_singleton (Char.utf8Size_eq_one_iff.mpr small), code]
  have singles : (bytes.map charOf).flatMap String.utf8EncodeChar = bytes := by
    rw [List.flatMap_map]
    induction bytes with
    | nil => rfl
    | cons first bytes ih =>
      obtain ⟨here, others⟩ := List.forall_mem_cons.mp chars
      rw [List.flatMap_cons, here, ih (List.forall_mem_cons.mp ascii).2 others]
      rfl
  unfold List.utf8Encode
  rw [singles]

theorem fromUTF8?_eq_some_iff {bytes : ByteArray} {text : String} :
    String.fromUTF8? bytes = some text ↔ text.toByteArray = bytes := by
  unfold String.fromUTF8?
  constructor
  · intro decoded
    split at decoded
    · cases decoded
      rfl
    · cases decoded
  · rintro rfl
    rw [dif_pos text.isValidUTF8]
    rfl

end Text

/-! ### Reading -/

/-- Bytes are read as a process id exactly if they are the mark and digits that denote it. -/
theorem readPayload?_eq_some_iff {bytes : List UInt8} {pid : UInt32} :
    readPayload? bytes = some pid ↔ ∃ digits, bytes = 112 :: digits ∧ BytesSpell digits pid.toNat := by
  cases bytes with
  | nil => simp [readPayload?]
  | cons first rest =>
    have mark : UInt8.ofNat Payload.mark.toNat = 112 := rfl
    unfold readPayload?
    rw [mark]
    by_cases marked : first = 112
    · subst marked
      simp only [if_true, List.cons_inj_right]
      rw [exists_eq_left', BytesSpell, ← readDigits?_eq_some_iff]
      exact ofNat_eq_some_iff
    · simp [marked]

/-- The process id in a text: the mark, then one or more digits and nothing else. -/
def readPayloadText? (text : String) : Option UInt32 :=
  match text.toList with
  | first :: digits =>
    if first = Payload.mark ∧ digits ≠ [] ∧ digits.all isDigit then readUInt32? digits else none
  | [] => none

/-- Digits are read as a number of 32 bits if it fits. -/
theorem readUInt32?_eq_some_iff {digits : List Char} {value : UInt32}
    (decimal : digits.all isDigit = true) :
    readUInt32? digits = some value ↔ readDigits? digits = some value.toNat := by
  have unsigned : readNatural? digits = readDigits? digits := by
    unfold readNatural?
    split
    · exact absurd decimal (by simp [isDigit])
    · rfl
  unfold readUInt32?
  rw [unsigned]
  exact ofNat_eq_some_iff

theorem readPayloadText?_eq_some_iff {text : String} {pid : UInt32} :
    readPayloadText? text = some pid ↔
      ∃ digits, text.toList = (112 :: digits).map charOf ∧ BytesSpell digits pid.toNat := by
  unfold readPayloadText?
  cases text.toList with
  | nil => simp
  | cons first rest =>
    dsimp only
    rw [Option.ite_none_right_eq_some]
    constructor
    · rintro ⟨⟨rfl, nonempty, decimal⟩, read⟩
      rw [readUInt32?_eq_some_iff decimal] at read
      have bytes : (rest.map fun c ↦ UInt8.ofNat c.toNat).map charOf = rest := by
        rw [List.map_map]
        refine (List.map_congr_left fun c member ↦ ?_).trans (List.map_id _)
        exact ofNat_toNat_of_isDigit (List.all_eq_true.mp decimal c member)
      refine ⟨rest.map fun c ↦ UInt8.ofNat c.toNat, ?_, ?_⟩
      · rw [List.map_cons, bytes]
        rfl
      · rwa [BytesSpell, bytes, ← readDigits?_eq_some_iff]
    · rintro ⟨digits, same, spell⟩
      obtain ⟨rfl, rfl⟩ := List.cons.inj same
      have decimal := all_isDigit_iff.mpr spell.decimal
      exact ⟨⟨rfl, spell.nonempty, decimal⟩,
        (readUInt32?_eq_some_iff decimal).mpr (readDigits?_eq_some_iff.mpr spell)⟩

/-- Bytes may as well be decoded first, and those that are no text refused. -/
theorem readPayload?_eq_bind (bytes : List UInt8) :
    readPayload? bytes = (String.fromUTF8? bytes.toByteArray).bind readPayloadText? := by
  refine Option.ext fun pid ↦ ?_
  rw [readPayload?_eq_some_iff, Option.bind_eq_some_iff]
  simp only [fromUTF8?_eq_some_iff, readPayloadText?_eq_some_iff]
  have encoded {digits : List UInt8} (spell : BytesSpell digits pid.toNat) :
      ((112 :: digits).map charOf).utf8Encode = (112 :: digits).toByteArray := by
    refine utf8Encode_map_charOf (List.forall_mem_cons.mpr ⟨by decide, fun byte member ↦ ?_⟩)
    have digit := (bytesSpell_iff.mp spell).2.1 byte member
    exact Nat.lt_of_le_of_lt (UInt8.le_iff_toNat_le.mp digit.2) (by decide)
  constructor
  · rintro ⟨digits, rfl, spell⟩
    refine ⟨String.ofList ((112 :: digits).map charOf), ?_, digits, String.toList_ofList, spell⟩
    rw [String.toByteArray_ofList, encoded spell]
  · rintro ⟨text, decoded, digits, chars, spell⟩
    refine ⟨digits, ?_, spell⟩
    rw [← List.toByteArray_inj, ← decoded, ← encoded spell, ← chars, String.utf8Encode_toList]

/-! ### Writing what was read -/

/-- What was read is written without the zeros in front of its digits. -/
theorem bytes_of_readPayload? {digits : List UInt8} {pid : UInt32}
    (read : readPayload? (112 :: digits) = some pid) :
    Payload.bytes ⟨pid⟩ = 112 :: withoutZeros digits := by
  obtain ⟨own, same, spell⟩ := readPayload?_eq_some_iff.mp read
  obtain rfl := (List.cons_inj_right _).mp same
  rw [Payload.bytes_eq, spell.decimalBytes_eq]

/-- Reading takes the mark with digits of a number of 32 bits after it and nothing else, as text or
as bytes. It is the way back from writing, so different processes write different payloads; and what
was read is written without the zeros in front of its digits. -/
theorem payloads_read_exactly :
    (∀ bytes pid, readPayload? bytes = some pid ↔
      ∃ digits, bytes = 112 :: digits ∧ BytesSpell digits pid.toNat) ∧
    (∀ bytes, readPayload? bytes = none ↔
      ∀ digits number, bytes = 112 :: digits → BytesSpell digits number → 2 ^ 32 ≤ number) ∧
    (∀ bytes, readPayload? bytes =
      (String.fromUTF8? bytes.toByteArray).bind readPayloadText?) ∧
    (∀ payload : Payload, readPayload? payload.bytes = some payload.pid) ∧
    Function.Injective Payload.bytes ∧
    ∀ digits pid, readPayload? (112 :: digits) = some pid →
      Payload.bytes ⟨pid⟩ = 112 :: withoutZeros digits := by
  refine ⟨fun _ _ ↦ readPayload?_eq_some_iff, fun bytes ↦ ?_, readPayload?_eq_bind,
    readPayload?_bytes, fun first second same ↦ ?_, fun _ _ ↦ bytes_of_readPayload?⟩
  · rw [Option.eq_none_iff_forall_ne_some]
    constructor
    · intro unread digits number marked spell
      by_contra small
      have fits : number < UInt32.size := Nat.lt_of_not_le small
      refine unread (UInt32.ofNat number) (readPayload?_eq_some_iff.mpr ⟨digits, marked, ?_⟩)
      rwa [UInt32.toNat_ofNat_of_lt' fits]
    · intro large pid read
      obtain ⟨digits, marked, spell⟩ := readPayload?_eq_some_iff.mp read
      exact absurd (large digits pid.toNat marked spell) (Nat.not_le.mpr pid.toNat_lt)
  · have read := readPayload?_bytes first
    rw [same, readPayload?_bytes, Option.some_inj] at read
    cases first
    cases second
    exact congrArg Payload.mk read.symm

/-- The greatest process id with two zeros in front of it, and the number after it. -/
theorem payloads_read_exactly_padded :
    readPayload? (112 :: 48 :: 48 :: decimalBytes 4294967295) = some 4294967295 ∧
      Payload.bytes ⟨4294967295⟩ = 112 :: decimalBytes 4294967295 ∧
      readPayload? (112 :: decimalBytes 4294967296) = none := by
  obtain ⟨grammar, refused, -, -, -, written⟩ := payloads_read_exactly
  have read : readPayload? (112 :: 48 :: 48 :: decimalBytes 4294967295) = some 4294967295 :=
    (grammar _ _).mpr ⟨_, rfl, bytesSpell_iff.mpr
      ⟨by decide, by decide +kernel, by decide +kernel⟩⟩
  refine ⟨read, written _ _ read, (refused _).mpr fun digits number same spell ↦ ?_⟩
  obtain rfl := (List.cons_inj_right _).mp same
  exact (bytesSpell_iff.mp spell).2.2.symm.ge.trans' (by decide +kernel)

end Heartbeat
