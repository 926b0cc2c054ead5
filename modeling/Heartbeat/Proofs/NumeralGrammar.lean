import Heartbeat.Proofs.PlainText
import Mathlib.Data.List.Induction
import Mathlib.Data.Nat.Digits.Defs

/-!
# The grammar of numerals

`Spells` says which digits stand for a number, and `Unsigned` and `Signed` which texts do when a
sign may come before the digits. The readers take exactly these texts (`readDigits?_eq_some_iff`,
`readNatural?_eq_some_iff`, `readInteger?_eq_some_iff`), and those of fixed width take them as far
as the number fits (`readUInt32?_iff_unsigned`, `readInt64?_iff_signed`).
-/

set_option autoImplicit false
set_option relaxedAutoImplicit false

namespace Heartbeat.Text

/-! ### Digits -/

theorem isDigit_iff {c : Char} : isDigit c = true ↔ 48 ≤ c.toNat ∧ c.toNat ≤ 57 := by
  unfold isDigit
  rw [Bool.and_eq_true, decide_eq_true_eq, decide_eq_true_eq]
  exact Iff.rfl

/-- One or more digits, the most significant first, stand for a number. -/
structure Spells (digits : List Char) (number : ℕ) : Prop where
  nonempty : digits ≠ []
  decimal : ∀ c ∈ digits, '0' ≤ c ∧ c ≤ '9'
  value : Nat.ofDigits 10 (digits.reverse.map fun c ↦ c.toNat - '0'.toNat) = number

/-- The value of digits is the number with these digits in base ten. -/
theorem digitsValue_eq_ofDigits (digits : List Char) :
    digitsValue digits = Nat.ofDigits 10 (digits.reverse.map fun c ↦ c.toNat - '0'.toNat) := by
  unfold digitsValue
  induction digits using List.reverseRecOn with
  | nil => rfl
  | append_singleton digits c ih =>
    rw [List.foldl_concat, ih, List.reverse_concat, List.map_cons, Nat.ofDigits_cons, Nat.mul_comm,
      Nat.add_comm]
    rfl

theorem all_isDigit_iff {digits : List Char} :
    digits.all isDigit = true ↔ ∀ c ∈ digits, '0' ≤ c ∧ c ≤ '9' := by
  rw [List.all_eq_true]
  refine forall₂_congr fun c _ ↦ ?_
  unfold isDigit
  rw [Bool.and_eq_true, decide_eq_true_eq, decide_eq_true_eq]

theorem readDigits?_eq_some_iff {digits : List Char} {number : ℕ} :
    readDigits? digits = some number ↔ Spells digits number := by
  unfold readDigits?
  rw [Option.ite_none_right_eq_some, Option.some_inj, and_assoc, all_isDigit_iff,
    digitsValue_eq_ofDigits]
  exact ⟨fun ⟨nonempty, decimal, value⟩ ↦ ⟨nonempty, decimal, value⟩,
    fun ⟨nonempty, decimal, value⟩ ↦ ⟨nonempty, decimal, value⟩⟩

/-- A number is spelled by its decimal form. -/
theorem spells_toDigits (number : ℕ) : Spells (Nat.toDigits 10 number) number :=
  readDigits?_eq_some_iff.mp (readDigits?_toDigits number)

theorem decimal_of_mem_zeros {count : ℕ} {c : Char} (member : c ∈ List.replicate count '0') :
    '0' ≤ c ∧ c ≤ '9' := by
  rw [List.eq_of_mem_replicate member]
  decide

/-- Zeros after digits stand for a power of ten. -/
theorem Spells.append_zeros {digits : List Char} {number : ℕ} (spells : Spells digits number)
    (count : ℕ) : Spells (digits ++ List.replicate count '0') (number * 10 ^ count) where
  nonempty := List.append_ne_nil_of_left_ne_nil spells.nonempty _
  decimal := List.forall_mem_append.mpr ⟨spells.decimal, fun _ ↦ decimal_of_mem_zeros⟩
  value := by
    rw [List.reverse_append, List.reverse_replicate, List.map_append, List.map_replicate,
      Nat.ofDigits_append, Nat.sub_self, Nat.ofDigits_replicate_zero, spells.value,
      List.length_replicate, Nat.zero_add, Nat.mul_comm]

/-- Zeros before digits stand for nothing. -/
theorem Spells.zeros_append {digits : List Char} {number : ℕ} (spells : Spells digits number)
    (count : ℕ) : Spells (List.replicate count '0' ++ digits) number where
  nonempty := List.append_ne_nil_of_right_ne_nil _ spells.nonempty
  decimal := List.forall_mem_append.mpr ⟨fun _ ↦ decimal_of_mem_zeros, spells.decimal⟩
  value := by
    rw [List.reverse_append, List.reverse_replicate, List.map_append, List.map_replicate,
      Nat.ofDigits_append, Nat.sub_self, Nat.ofDigits_replicate_zero, spells.value, Nat.mul_zero,
      Nat.add_zero]

/-- The digits of a positive number do not start with a zero. -/
theorem head?_toDigits_ne {number : ℕ} (positive : 0 < number) :
    (Nat.toDigits 10 number).head? ≠ some '0' := by
  induction number using Nat.strongRecOn with
  | ind number ih =>
    rcases Nat.lt_or_ge number 10 with single | several
    · have digit : ∀ number < 10, 0 < number → [Nat.digitChar number].head? ≠ some '0' := by decide
      rw [Nat.toDigits_of_lt_base single]
      exact digit number single positive
    · have less : number / 10 < number := Nat.div_lt_self positive (by norm_num)
      rw [Nat.toDigits_of_base_le (by norm_num) several,
        List.head?_append_of_ne_nil _ Nat.toDigits_ne_nil]
      exact ih _ less (Nat.div_pos several (by norm_num))

/-! ### Signs -/

/-- Digits, with or without a plus sign before them, stand for a number. -/
inductive Unsigned : List Char → ℕ → Prop
  | bare {digits : List Char} {number : ℕ} (spells : Spells digits number) :
    Unsigned digits number
  | plus {digits : List Char} {number : ℕ} (spells : Spells digits number) :
    Unsigned ('+' :: digits) number

/-- Digits, with or without a sign before them, stand for an integer. -/
inductive Signed : List Char → ℤ → Prop
  | unsigned {text : List Char} {number : ℕ} (unsigned : Unsigned text number) :
    Signed text number
  | minus {digits : List Char} {number : ℕ} (spells : Spells digits number) :
    Signed ('-' :: digits) (-number)

/-- Digits have no sign before them. -/
theorem Spells.head_ne {digits : List Char} {number : ℕ} (spells : Spells digits number)
    {sign : Char} (other : isDigit sign = false) (rest : List Char) : digits ≠ sign :: rest := by
  rintro rfl
  have digit := List.all_eq_true.mp (all_isDigit_iff.mpr spells.decimal) sign List.mem_cons_self
  exact absurd (other.symm.trans digit) Bool.false_ne_true

theorem readNatural?_eq_some_iff {text : List Char} {number : ℕ} :
    readNatural? text = some number ↔ Unsigned text number := by
  constructor
  · intro read
    unfold readNatural? at read
    split at read
    · exact .plus (readDigits?_eq_some_iff.mp read)
    · exact .bare (readDigits?_eq_some_iff.mp read)
  · rintro (spells | spells)
    · unfold readNatural?
      split
      · exact absurd rfl (spells.head_ne (by decide) _)
      · exact readDigits?_eq_some_iff.mpr spells
    · exact readDigits?_eq_some_iff.mpr spells

/-- A text without a minus sign stands for the number that its digits spell. -/
theorem Unsigned.head_ne_minus {text : List Char} {number : ℕ} (unsigned : Unsigned text number)
    (rest : List Char) : text ≠ '-' :: rest := by
  cases unsigned with
  | bare spells => exact spells.head_ne (by decide) rest
  | plus => simp

theorem readInteger?_eq_some_iff {text : List Char} {number : ℤ} :
    readInteger? text = some number ↔ Signed text number := by
  constructor
  · intro read
    unfold readInteger? at read
    split at read
    next digits =>
      cases found : readDigits? digits with
      | none => simp [found] at read
      | some value =>
        rw [found] at read
        cases read
        exact .minus (readDigits?_eq_some_iff.mp found)
    next =>
      cases found : readNatural? text with
      | none => simp [found] at read
      | some value =>
        rw [found] at read
        cases read
        exact .unsigned (readNatural?_eq_some_iff.mp found)
  · rintro (unsigned | spells)
    · unfold readInteger?
      split
      · exact absurd rfl (unsigned.head_ne_minus _)
      · rw [readNatural?_eq_some_iff.mpr unsigned]
        rfl
    · simp only [readInteger?, readDigits?_eq_some_iff.mpr spells]
      rfl

/-- A number in decimal stands for itself. -/
theorem unsigned_toString (number : ℕ) : Unsigned (toString number).toList number := by
  have digits : (toString number).toList = Nat.toDigits 10 number :=
    toList_toString_int (number : ℤ)
  rw [digits]
  exact .bare (spells_toDigits number)

/-- A number that fits 32 bits is kept as it is. -/
theorem ofNat_eq_some_iff {read : Option ℕ} {value : UInt32} :
    (match read with
      | some number => if number < UInt32.size then some (UInt32.ofNat number) else none
      | none => none) = some value ↔ read = some value.toNat := by
  cases read with
  | none => simp
  | some number =>
    rw [Option.some_inj]
    dsimp only
    rw [Option.ite_none_right_eq_some, Option.some_inj]
    constructor
    · rintro ⟨small, rfl⟩
      exact (UInt32.toNat_ofNat_of_lt' small).symm
    · rintro rfl
      exact ⟨value.toNat_lt, UInt32.ofNat_toNat⟩

theorem readUInt32?_iff_unsigned {text : List Char} {value : UInt32} :
    readUInt32? text = some value ↔ Unsigned text value.toNat := by
  rw [← readNatural?_eq_some_iff]
  exact ofNat_eq_some_iff

theorem readInt64?_iff_signed {text : List Char} {value : Int64} :
    readInt64? text = some value ↔ Signed text value.toInt := by
  rw [← readInteger?_eq_some_iff]
  unfold readInt64?
  cases readInteger? text with
  | none => simp
  | some number =>
    rw [Option.some_inj]
    dsimp only
    rw [Option.ite_none_right_eq_some, Option.some_inj]
    constructor
    · rintro ⟨⟨least, most⟩, rfl⟩
      have below : number < 2 ^ 63 := Int.lt_of_le_sub_one most
      exact (Int64.toInt_ofInt_of_le least below).symm
    · rintro rfl
      exact ⟨⟨Int64.le_iff_toInt_le.mp (Int64.minValue_le _),
        Int64.le_iff_toInt_le.mp (Int64.le_maxValue _)⟩, Int64.ofInt_toInt value⟩

end Heartbeat.Text
