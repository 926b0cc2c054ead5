import Heartbeat.Report.Json
import Heartbeat.Proofs.NumeralGrammar
import Heartbeat.Proofs.ShortestDecimal

/-!
# The grammar of JSON

`Represents` says which texts are JSON texts of a value, apart from the functions that print one:
integers, numbers with a point or an exponent (`Numeral`), strings with their escapes (`IsString`),
and lists and objects with blanks wherever they may stand. A numeral with a point or an exponent
stands for the number of binary64 that is nearest to its decimal, any other one for an integer.

What `pretty` prints is a JSON text of the value (`Legible.represents`), by induction on the value.
For its numbers this rests on the decimal being rounded to them (`Binary64.round_shortest`), so that
they have to be of the format; `Legible` says that of all numbers in a value.

Not treated here: a character that is written as two codes, which is not printed, and numerals past
the largest finite number.
-/

set_option autoImplicit false
set_option relaxedAutoImplicit false

namespace Heartbeat.Report.Json

open Text

/-! ### Numbers -/

/-- The digits before the point of a number. No zero stands before other digits. -/
structure Whole (digits : List Char) : Prop where
  nonempty : digits ≠ []
  decimal : ∀ c ∈ digits, '0' ≤ c ∧ c ≤ '9'
  plain : digits.head? = some '0' → digits = ['0']

/-- A point with one or more digits after it, or nothing. -/
inductive Fraction : List Char → List Char → Prop
  | none : Fraction [] []
  | point {digits : List Char} (nonempty : digits ≠ [])
    (decimal : ∀ c ∈ digits, '0' ≤ c ∧ c ≤ '9') : Fraction ('.' :: digits) digits

/-- The letter for an exponent with an integer after it, or nothing. -/
inductive Exponent : List Char → ℤ → Prop
  | none : Exponent [] 0
  | power {mark : Char} {text : List Char} {exponent : ℤ} (either : mark = 'e' ∨ mark = 'E')
    (signed : Signed text exponent) : Exponent (mark :: text) exponent

/-- A number without a sign that has a point or an exponent, and the rational that it stands for. -/
inductive Numeral : List Char → ℚ → Prop
  | mk {digits point places power : List Char} {exponent : ℤ} {coefficient : ℕ}
    (whole : Whole digits) (fraction : Fraction point places) (scaled : Exponent power exponent)
    (marked : point ++ power ≠ []) (spells : Spells (digits ++ places) coefficient) :
    Numeral (digits ++ point ++ power) (coefficient * (10 : ℚ) ^ (exponent - places.length))

/-! ### Strings -/

/-- The digits of a code, in lower case. -/
def hexDigits : List Char :=
  "0123456789abcdef".toList

/-- Four digits are the code of a character. -/
structure IsCode (digits : List Char) (c : Char) : Prop where
  length : digits.length = 4
  hexadecimal : ∀ digit ∈ digits, digit.toLower ∈ hexDigits
  value : Nat.ofDigits 16 (digits.reverse.map fun digit ↦ hexDigits.idxOf digit.toLower) = c.toNat

/-- The letters that stand for a character after a backslash. -/
def escapes : List (Char × Char) :=
  [('"', '"'), ('\\', '\\'), ('/', '/'), ('b', '\x08'), ('f', '\x0c'), ('n', '\n'), ('r', '\r'),
    ('t', '\t')]

/-- A text stands for one character of a string. -/
inductive Shows : List Char → Char → Prop
  | plain {c : Char} (printable : 0x20 ≤ c.toNat) (other : c ≠ '"' ∧ c ≠ '\\') : Shows [c] c
  | escape {letter c : Char} (pair : (letter, c) ∈ escapes) : Shows ['\\', letter] c
  | code {digits : List Char} {c : Char} (code : IsCode digits c) : Shows ('\\' :: 'u' :: digits) c

/-- A text is a string in quotation marks. -/
inductive IsString : List Char → String → Prop
  | mk {pieces : List (List Char)} {value : String}
    (each : List.Forall₂ Shows pieces value.toList) :
    IsString ('"' :: (pieces.flatten ++ ['"'])) value

/-! ### Values -/

/-- A text of blanks only. -/
def Blank (text : List Char) : Prop :=
  ∀ c ∈ text, c ∈ [' ', '\t', '\n', '\r']

mutual

/-- A text is the JSON text of a value, with or without blanks around it. -/
inductive Represents : List Char → Json → Prop
  | padded {before text after : List Char} {value : Json} (leading : Blank before)
    (represents : Represents text value) (trailing : Blank after) :
    Represents (before ++ text ++ after) value
  | null : Represents "null".toList .null
  | true : Represents "true".toList (.bool true)
  | false : Represents "false".toList (.bool false)
  | integer {digits : List Char} {number : ℕ} (whole : Whole digits)
    (spells : Spells digits number) : Represents digits (.integer number)
  | negativeInteger {digits : List Char} {number : ℕ} (whole : Whole digits)
    (spells : Spells digits number) : Represents ('-' :: digits) (.integer (-number))
  | number {text : List Char} {value : ℚ} (numeral : Numeral text value) :
    Represents text (.number (Binary64.round value))
  | negativeNumber {text : List Char} {value : ℚ} (numeral : Numeral text value) :
    Represents ('-' :: text) (.number (-Binary64.round value))
  | text {chars : List Char} {value : String} (quoted : IsString chars value) :
    Represents chars (.text value)
  | list {texts : List (List Char)} {after : List Char} {items : List Json}
    (each : List.Forall₂ Represents texts items) (trailing : Blank after) :
    Represents ('[' :: ([','].intercalate texts ++ after ++ [']'])) (.list items)
  | object {texts : List (List Char)} {after : List Char} {fields : List (String × Json)}
    (each : List.Forall₂ RepresentsField texts fields) (trailing : Blank after) :
    Represents ('\x7b' :: ([','].intercalate texts ++ after ++ ['\x7d'])) (.object fields)

/-- A text is that of a field of an object. -/
inductive RepresentsField : List Char → String × Json → Prop
  | mk {before chars between text : List Char} {name : String} {value : Json}
    (leading : Blank before) (quoted : IsString chars name) (trailing : Blank between)
    (represents : Represents text value) :
    RepresentsField (before ++ chars ++ between ++ ':' :: text) (name, value)

end

/-- Every number in a value is one of the format. -/
inductive Legible : Json → Prop
  | null : Legible .null
  | bool (value : Bool) : Legible (.bool value)
  | integer (value : ℤ) : Legible (.integer value)
  | number {value : ℚ}
    (format : Binary64.round (Binary64.magnitude value) = Binary64.magnitude value) :
    Legible (.number value)
  | text (value : String) : Legible (.text value)
  | list {items : List Json} (each : ∀ item ∈ items, Legible item) : Legible (.list items)
  | object {fields : List (String × Json)} (each : ∀ field ∈ fields, Legible field.2) :
    Legible (.object fields)

namespace Legible

/-- One more field. -/
theorem field {name : String} {value : Json} {fields : List (String × Json)}
    (first : value.Legible) (rest : Legible (.object fields)) :
    Legible (.object ((name, value) :: fields)) := by
  cases rest with
  | object each => exact .object (List.forall_mem_cons.mpr ⟨first, each⟩)

end Legible

/-! ### Strings that are printed -/

/-- The code of a control character in four digits. -/
def controlCode (code : ℕ) : List Char :=
  List.replicate (4 - (Nat.toDigits 16 code).length) '0' ++ Nat.toDigits 16 code

/-- A control character is printed as its code. -/
theorem isCode_controlCode {code : ℕ} (control : code < 0x20) :
    IsCode (controlCode code) (Char.ofNat code) := by
  have all : ∀ code < 0x20, (controlCode code).length = 4 ∧
      ((controlCode code).all fun digit ↦ hexDigits.elem digit.toLower) = true ∧
      Nat.ofDigits 16 ((controlCode code).reverse.map fun digit ↦ hexDigits.idxOf digit.toLower) =
        (Char.ofNat code).toNat := by
    decide +kernel
  obtain ⟨length, hexadecimal, value⟩ := all code control
  exact ⟨length, fun digit member ↦
    List.elem_iff.mp (List.all_eq_true.mp hexadecimal digit member), value⟩

/-- Every character is printed as a text that stands for it. -/
theorem shows_escaped (c : Char) : Shows (escaped c) c := by
  unfold escaped
  split <;> try exact .escape (by decide)
  next quote backslash _ _ _ _ _ =>
    split
    · next control =>
      have code := isCode_controlCode control
      rw [Char.ofNat_toNat] at code
      exact .code code
    · next printable => exact .plain (not_lt.mp printable) ⟨quote, backslash⟩

theorem isString_quoted (value : String) : IsString (quoted value).toList value := by
  have each : List.Forall₂ Shows (value.toList.map escaped) value.toList := by
    rw [List.forall₂_map_left_iff, List.forall₂_same]
    exact fun c _ ↦ shows_escaped c
  unfold quoted
  rw [String.toList_ofList, List.flatMap_def]
  exact .mk each

/-! ### Numbers that are printed -/

/-- Digits that do not start with a zero are the whole part of a number. -/
theorem whole_of_head_ne {digits : List Char} (nonempty : digits ≠ [])
    (decimal : ∀ c ∈ digits, '0' ≤ c ∧ c ≤ '9') (head : digits.head? ≠ some '0') : Whole digits :=
  ⟨nonempty, decimal, fun zero ↦ absurd zero head⟩

theorem whole_zero : Whole ['0'] :=
  ⟨List.cons_ne_nil _ _, fun _ ↦ @decimal_of_mem_zeros 1 _, fun _ ↦ rfl⟩

/-- A zero after the point. -/
theorem fraction_zero : Fraction ['.', '0'] ['0'] :=
  .point whole_zero.nonempty whole_zero.decimal

theorem whole_toDigits (number : ℕ) : Whole (Nat.toDigits 10 number) := by
  rcases Nat.eq_zero_or_pos number with rfl | positive
  · exact whole_zero
  · exact whole_of_head_ne Nat.toDigits_ne_nil (spells_toDigits number).decimal
      (head?_toDigits_ne positive)

theorem represents_integer (value : ℤ) : Represents (toString value).toList (.integer value) := by
  rw [toList_toString_int]
  split
  · next nonneg =>
    have represents := Represents.integer (whole_toDigits _) (spells_toDigits value.toNat)
    rwa [Int.toNat_of_nonneg nonneg] at represents
  · next negative =>
    have represents := Represents.negativeInteger (whole_toDigits _) (spells_toDigits value.natAbs)
    rwa [Int.ofNat_natAbs_of_nonpos (by omega), neg_neg] at represents

theorem exponent_toString (exponent : ℤ) :
    Exponent ('e' :: (toString exponent).toList) exponent :=
  .power (.inl rfl) (readInteger?_eq_some_iff.mp (readInteger?_toString exponent))

section Layout

variable {digits : List Char} {coefficient : ℕ} {exponent : ℤ} (spells : Spells digits coefficient)
  (head : digits.head? ≠ some '0')

include spells

/-- Some of the digits are digits. -/
theorem digits_of_sublist {part : List Char} (kept : part.Sublist digits) :
    ∀ c ∈ part, '0' ≤ c ∧ c ≤ '9' :=
  fun c member ↦ spells.decimal c (kept.subset member)

/-- Zeros before digits that all stand after the point. -/
theorem numeral_fraction {count : ℕ} (places : exponent = -(count + digits.length : ℕ)) :
    Numeral ('0' :: '.' :: (List.replicate count '0' ++ digits))
      (coefficient * (10 : ℚ) ^ exponent) := by
  have padded := spells.zeros_append count
  have all := padded.zeros_append 1
  have numeral := Numeral.mk whole_zero (.point padded.nonempty padded.decimal) .none (by simp) all
  rwa [List.length_append, List.length_replicate, zero_sub, ← places, List.append_nil] at numeral

include head

/-- Digits that start with no zero, and the first of them, are the whole part of a number. -/
theorem whole_take {count : ℕ} (positive : 0 < count) : Whole (digits.take count) := by
  refine whole_of_head_ne ?_ (digits_of_sublist spells (List.take_sublist _ _)) ?_
  · rw [Ne, List.take_eq_nil_iff, not_or]
    exact ⟨positive.ne', spells.nonempty⟩
  · rwa [List.head?_take, if_neg positive.ne']

/-- Zeros after digits that all stand before the point. -/
theorem numeral_zeros {count : ℕ} (zeros : exponent = count) :
    Numeral (digits ++ List.replicate count '0' ++ ['.', '0'])
      (coefficient * (10 : ℚ) ^ exponent) := by
  have padded := spells.append_zeros count
  have start : (digits ++ List.replicate count '0').head? ≠ some '0' := by
    rwa [List.head?_append_of_ne_nil _ spells.nonempty]
  have whole := whole_of_head_ne padded.nonempty padded.decimal start
  have numeral := Numeral.mk whole fraction_zero .none (by simp) (padded.append_zeros 1)
  have value : ((coefficient * 10 ^ count * 10 ^ 1 : ℕ) : ℚ) *
      (10 : ℚ) ^ ((0 : ℤ) - (['0'].length : ℕ)) = coefficient * (10 : ℚ) ^ exponent := by
    rw [zeros, zpow_natCast]
    push_cast
    norm_num
    ring
  rwa [List.append_nil, value] at numeral

/-- A point among the digits. -/
theorem numeral_point {count : ℕ} (positive : 0 < count) (inside : count < digits.length)
    (places : exponent = -(digits.length - count : ℕ)) :
    Numeral (digits.take count ++ '.' :: digits.drop count)
      (coefficient * (10 : ℚ) ^ exponent) := by
  have rest : digits.drop count ≠ [] := by
    rw [Ne, List.drop_eq_nil_iff]
    exact not_le.mpr inside
  have all : Spells (digits.take count ++ digits.drop count) coefficient := by
    rwa [List.take_append_drop]
  have numeral := Numeral.mk (whole_take spells head positive)
    (.point rest (digits_of_sublist spells (List.drop_sublist _ _))) .none (by simp) all
  rwa [List.length_drop, zero_sub, ← places, List.append_nil] at numeral

/-- A point after the first digit, if there are more, and an exponent. -/
theorem numeral_exponent :
    Numeral (digits.take 1 ++ (if digits.length = 1 then [] else '.' :: digits.drop 1) ++
        'e' :: (toString (digits.length + exponent - 1)).toList)
      (coefficient * (10 : ℚ) ^ exponent) := by
  have size : 0 < digits.length := List.length_pos_of_ne_nil spells.nonempty
  have fraction : Fraction (if digits.length = 1 then [] else '.' :: digits.drop 1)
      (digits.drop 1) := by
    split
    · next single =>
      rw [List.drop_of_length_le single.le]
      exact .none
    · next several =>
      refine .point ?_ (digits_of_sublist spells (List.drop_sublist _ _))
      rw [Ne, List.drop_eq_nil_iff]
      omega
  have all : Spells (digits.take 1 ++ digits.drop 1) coefficient := by
    rwa [List.take_append_drop]
  have numeral := Numeral.mk (whole_take spells head one_pos) fraction
    (exponent_toString (digits.length + exponent - 1)) (by simp) all
  rwa [List.length_drop, Nat.cast_sub size, Nat.cast_one, sub_sub_sub_cancel_right,
    add_sub_cancel_left] at numeral

end Layout

/-- The text of a decimal stands for its value. -/
theorem numeral_decimalText {decimal : Binary64.Decimal} (positive : 0 < decimal.coefficient) :
    Numeral (decimalText decimal).toList decimal.value := by
  obtain ⟨coefficient, exponent⟩ := decimal
  have spells := spells_toDigits coefficient
  have head := head?_toDigits_ne positive
  have size : 0 < (Nat.toDigits 10 coefficient).length := Nat.length_toDigits_pos
  unfold decimalText Binary64.Decimal.value
  rw [Binary64.tenPow_eq_zpow, String.toList_ofList]
  dsimp only
  generalize Nat.toDigits 10 coefficient = digits at spells head size ⊢
  split
  · exact numeral_zeros spells head (by omega)
  · split
    · exact numeral_point spells head (by omega) (by omega) (by omega)
    · split
      · exact numeral_fraction spells (by omega)
      · exact numeral_exponent spells head

theorem represents_zero : Represents ['0', '.', '0'] (.number 0) := by
  have numeral := Numeral.mk whole_zero fraction_zero .none (by simp)
    ((spells_toDigits 0).append_zeros 1)
  have represents := Represents.number numeral
  rwa [Nat.zero_mul, Nat.cast_zero, zero_mul, Binary64.round_zero] at represents

/-- A decimal that is not rounded to zero has digits. -/
theorem coefficient_pos {decimal : Binary64.Decimal} {value : ℚ}
    (read : Binary64.round decimal.value = value) (nonzero : value ≠ 0) :
    0 < decimal.coefficient := by
  refine Nat.pos_of_ne_zero fun none ↦ nonzero ?_
  rw [← read, Binary64.Decimal.value, none, Nat.cast_zero, zero_mul, Binary64.round_zero]

/-- A number of the format is printed as a decimal that is rounded to it. -/
theorem represents_number {value : ℚ}
    (format : Binary64.round (Binary64.magnitude value) = Binary64.magnitude value) :
    Represents (numberText value).toList (.number value) := by
  unfold numberText
  split
  · next zero =>
    rw [zero]
    exact represents_zero
  · next nonzero =>
    have positive : 0 < Binary64.magnitude value := by
      rw [Binary64.magnitude_eq_abs]
      exact abs_pos.mpr nonzero
    have read := Binary64.round_shortest positive format
    rw [← Binary64.value_stripped] at read
    have numeral := numeral_decimalText (coefficient_pos read positive.ne')
    dsimp only
    split
    · next negative =>
      have own : -Binary64.magnitude value = value := by
        rw [Binary64.magnitude, if_pos negative, neg_neg]
      have represents := Represents.negativeNumber numeral
      rw [read, own] at represents
      rw [String.toList_append]
      exact represents
    · next nonneg =>
      have represents := Represents.number numeral
      rwa [read.trans (if_neg nonneg)] at represents

/-! ### Values that are printed -/

theorem prettyItems_eq_map (level : ℕ) (items : List Json) :
    prettyItems level items = items.map (pretty level) := by
  induction items with
  | nil => rfl
  | cons item rest ih => rw [prettyItems, ih, List.map_cons]

theorem prettyFields_eq_map (level : ℕ) (fields : List (String × Json)) :
    prettyFields level fields =
      fields.map fun field ↦ quoted field.1 ++ ": " ++ pretty level field.2 := by
  induction fields with
  | nil => rfl
  | cons field rest ih =>
    obtain ⟨name, value⟩ := field
    rw [prettyFields, ih, List.map_cons]

theorem blank_indent (level : ℕ) : Blank (indent level).toList := by
  intro c member
  rw [indent, String.toList_ofList] at member
  rw [List.eq_of_mem_replicate member]
  decide

theorem blank_lineStart (level : ℕ) : Blank ('\n' :: (indent level).toList) :=
  List.forall_mem_cons.mpr ⟨by decide, blank_indent level⟩

/-- Between items a line ends after the comma. -/
theorem intercalate_lines {lines : List (List Char)} (some : lines ≠ []) :
    '\n' :: [',', '\n'].intercalate lines = [','].intercalate (lines.map ('\n' :: ·)) := by
  induction lines with
  | nil => exact absurd rfl some
  | cons first rest ih =>
    cases rest with
    | nil => rfl
    | cons second rest =>
      rw [List.intercalate_cons_cons, List.map_cons, List.map_cons, List.intercalate_cons_cons,
        ← List.map_cons, ← ih (List.cons_ne_nil _ _)]
      simp

/-- The characters of a line of its own, a level below. -/
def lineChars (level : ℕ) (line : String) : List Char :=
  '\n' :: (indent level).toList ++ line.toList

/-- Lines between marks are separated by commas, with blanks before the closing mark. -/
theorem exists_enclosed (level : ℕ) (opening closing : String) (lines : List String) :
    ∃ after, Blank after ∧ (enclosed level opening closing lines).toList = opening.toList ++
      ([','].intercalate (lines.map (lineChars (level + 1))) ++ after ++ closing.toList) := by
  unfold enclosed
  split
  · next none =>
    subst none
    exact ⟨[], by simp [Blank], by simp⟩
  · next some =>
    have lined := intercalate_lines (List.map_eq_nil_iff.not.mpr some :
      lines.map (fun line ↦ (indent (level + 1) ++ line).toList) ≠ [])
    rw [List.map_map] at lined
    have same : lines.map (lineChars (level + 1)) =
        lines.map (('\n' :: ·) ∘ fun line ↦ (indent (level + 1) ++ line).toList) := by
      refine List.map_congr_left fun line _ ↦ ?_
      simp [lineChars]
    refine ⟨'\n' :: (indent level).toList, blank_lineStart level, ?_⟩
    rw [same, ← lined]
    simp [String.toList_intercalate, Function.comp_def]

theorem blank_nil : Blank [] :=
  fun _ member ↦ absurd member List.not_mem_nil

/-- A value on a line of its own. -/
theorem represents_line {level : ℕ} {text : String} {value : Json}
    (represents : Represents text.toList value) : Represents (lineChars level text) value := by
  have padded := represents.padded (blank_lineStart level) blank_nil
  rwa [List.append_nil] at padded

/-- A field on a line of its own. -/
theorem representsField_line {level : ℕ} {name text : String} {value : Json}
    (represents : Represents text.toList value) :
    RepresentsField (lineChars level (quoted name ++ ": " ++ text)) (name, value) := by
  have blank : Blank [' '] := List.forall_mem_singleton.mpr List.mem_cons_self
  have padded : Represents ([' '] ++ text.toList ++ []) value := .padded blank represents blank_nil
  have field := RepresentsField.mk (blank_lineStart level) (isString_quoted name) blank_nil padded
  have chars : lineChars level (quoted name ++ ": " ++ text) =
      '\n' :: (indent level).toList ++ (quoted name).toList ++ [] ++
        ':' :: ([' '] ++ text.toList ++ []) := by
    simp [lineChars]
  rwa [chars]

/-- The text of a value whose numbers are all of the format is the JSON text of the value. -/
theorem Legible.represents {value : Json} (legible : value.Legible) (level : ℕ) :
    Represents (pretty level value).toList value := by
  induction legible generalizing level with
  | null => exact .null
  | bool value =>
    cases value with
    | true => exact .true
    | false => exact .false
  | integer value => exact represents_integer value
  | number format => exact represents_number format
  | text value => exact .text (isString_quoted value)
  | @list items each ih =>
    obtain ⟨after, blank, text⟩ := exists_enclosed level "[" "]" (items.map (pretty (level + 1)))
    rw [pretty, prettyItems_eq_map, text, List.map_map]
    refine .list ?_ blank
    rw [List.forall₂_map_left_iff, List.forall₂_same]
    exact fun item member ↦ represents_line (ih item member (level + 1))
  | @object fields each ih =>
    obtain ⟨after, blank, text⟩ := exists_enclosed level "\x7b" "\x7d"
      (fields.map fun field ↦ quoted field.1 ++ ": " ++ pretty (level + 1) field.2)
    rw [pretty, prettyFields_eq_map, text, List.map_map]
    refine .object ?_ blank
    rw [List.forall₂_map_left_iff, List.forall₂_same]
    exact fun field member ↦ representsField_line (ih field member (level + 1))

end Heartbeat.Report.Json
