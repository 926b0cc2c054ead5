import Heartbeat.Proofs.PayloadText
import Heartbeat.Text.Ascii
import Heartbeat.Text.Blank
import Heartbeat.Text.Lowercase
import Mathlib.Data.List.Basic
import Mathlib.Data.List.TakeWhile

/-!
# Plain text

What the functions on text do to text that gives them little to do. Trimming takes the blanks around
a text and leaves what is between them (`padded_iff`), the lower case of an ASCII text is its lower
case letter by letter (`lowercase_eq_map`), and the decimal form of an integer of 64 bits is read as
that integer (`readInt64?_toString`). What is true of an ASCII character is decided by its code
(`forall_ascii`).
-/

set_option autoImplicit false
set_option relaxedAutoImplicit false

namespace Heartbeat.Text

/-- What holds of the characters with the codes up to 127 holds of every ASCII character. -/
theorem forall_ascii {holds : Char → Prop} (all : ∀ code < 128, holds (Char.ofNat code)) {c : Char}
    (ascii : c.toNat < 128) : holds c := by
  have found := all c.toNat ascii
  rwa [Char.ofNat_toNat] at found

/-! ### Words -/

/-- The characters of words: letters, digits, underscores and hyphens of ASCII. -/
def isWordChar (c : Char) : Bool :=
  isDigit c || ('a' ≤ c && c ≤ 'z') || ('A' ≤ c && c ≤ 'Z') || c == '_' || c == '-'

theorem ascii_of_isWordChar {c : Char} (word : isWordChar c = true) : c.toNat < 128 := by
  unfold isWordChar isDigit at word
  simp only [Bool.or_eq_true, Bool.and_eq_true, decide_eq_true_eq, beq_iff_eq] at word
  rcases word with (((⟨-, most⟩ | ⟨-, most⟩) | ⟨-, most⟩) | rfl) | rfl
  · exact Nat.lt_of_le_of_lt (UInt32.le_iff_toNat_le.mp most) (by decide)
  · exact Nat.lt_of_le_of_lt (UInt32.le_iff_toNat_le.mp most) (by decide)
  · exact Nat.lt_of_le_of_lt (UInt32.le_iff_toNat_le.mp most) (by decide)
  · decide
  · decide

/-- What holds of the characters of words with the codes up to 127 holds of all of them. -/
theorem forall_wordChar {holds : Char → Prop}
    (all : ∀ code < 128, isWordChar (Char.ofNat code) = true → holds (Char.ofNat code)) {c : Char}
    (word : isWordChar c = true) : holds c :=
  @forall_ascii (fun c ↦ isWordChar c = true → holds c) all c (ascii_of_isWordChar word) word

theorem isBlank_of_isWordChar {c : Char} : isWordChar c = true → isBlank c = false :=
  @forall_wordChar (fun c ↦ isBlank c = false) (by decide) c

/-! ### Blanks at the ends -/

/-- A text neither begins nor ends with a blank. -/
structure Unpadded (text : List Char) : Prop where
  head : ∀ c ∈ text.head?, isBlank c = false
  last : ∀ c ∈ text.getLast?, isBlank c = false

/-- A text without any blank has none at its ends. -/
theorem Unpadded.of_forall {text : List Char} (solid : ∀ c ∈ text, isBlank c = false) :
    Unpadded text :=
  ⟨fun c first ↦ solid c (List.mem_of_mem_head? first),
    fun c last ↦ solid c (List.mem_of_mem_getLast? last)⟩

theorem dropWhile_of_head? {holds : Char → Bool} {text : List Char}
    (head : ∀ c ∈ text.head?, holds c = false) : text.dropWhile holds = text := by
  cases text with
  | nil => rfl
  | cons c text => exact List.dropWhile_cons_of_neg (by simpa using head c rfl)

/-- Blanks after a text are trimmed, and nothing else is. -/
theorem trim_append_of_blank {text blanks : List Char} (unpadded : Unpadded text)
    (blank : ∀ c ∈ blanks, isBlank c = true) : trim (text ++ blanks) = text := by
  have ending : trimEnd (text ++ blanks) = text := by
    unfold trimEnd
    rw [List.reverse_append, List.dropWhile_append_of_pos (by simpa using blank),
      dropWhile_of_head? (by simpa using unpadded.last), List.reverse_reverse]
  unfold trim trimStart
  cases text with
  | nil =>
    rw [List.nil_append, ← List.append_nil blanks, List.dropWhile_append_of_pos blank]
    rfl
  | cons c text =>
    rw [List.cons_append, List.dropWhile_cons_of_neg (by simpa using unpadded.head c rfl)]
    exact ending

theorem trim_of_unpadded {text : List Char} (unpadded : Unpadded text) : trim text = text := by
  have trimmed := @trim_append_of_blank text [] unpadded (by simp)
  rwa [List.append_nil] at trimmed

theorem not_of_mem_head?_dropWhile {holds : Char → Bool} {text : List Char} {c : Char}
    (first : c ∈ (text.dropWhile holds).head?) : holds c = false := by
  have stopped := List.head?_dropWhile_not holds text
  rwa [Option.mem_def.mp first] at stopped

/-- Nothing is left of a text that is trimmed exactly if all of it is blank. -/
theorem trim_eq_nil_iff {text : List Char} : trim text = [] ↔ ∀ c ∈ text, isBlank c = true := by
  have ended : trim text = [] ↔ ∀ c ∈ text.dropWhile isBlank, isBlank c = true := by
    unfold trim trimEnd trimStart
    rw [List.reverse_eq_nil_iff, List.dropWhile_eq_nil_iff]
    simp only [List.mem_reverse]
  rw [ended]
  constructor
  · intro blank
    rw [← List.dropWhile_eq_nil_iff]
    cases left : text.dropWhile isBlank with
    | nil => rfl
    | cons c rest =>
      -- What is left at the start begins with a character that is not blank.
      have visible : isBlank c = false := not_of_mem_head?_dropWhile (by rw [left]; rfl)
      rw [left] at blank
      exact absurd (blank c List.mem_cons_self) (by simp [visible])
  · intro blank c member
    exact blank c ((List.dropWhile_sublist isBlank).subset member)

/-- What is left of a text that is trimmed has no blanks at its ends. -/
theorem unpadded_trim (text : List Char) : Unpadded (trim text) where
  head c first := by
    have start : trim text <+: (trimStart text).reverse.reverse :=
      List.reverse_prefix.mpr (List.dropWhile_suffix isBlank)
    rw [List.reverse_reverse] at start
    obtain ⟨blanks, parts⟩ := start
    have begins : c ∈ (trimStart text).head? := by
      rw [← parts, List.head?_append, Option.mem_def.mp first]
      rfl
    exact not_of_mem_head?_dropWhile begins
  last c final := by
    unfold trim trimEnd at final
    rw [List.getLast?_reverse] at final
    exact not_of_mem_head?_dropWhile final

/-- A text is another one between blanks, and the other one neither begins nor ends with a blank. -/
inductive Padded (core : List Char) : List Char → Prop
  | around (unpadded : Unpadded core) (before after : List Char)
      (blankBefore : ∀ c ∈ before, isBlank c = true)
      (blankAfter : ∀ c ∈ after, isBlank c = true) : Padded core (before ++ (core ++ after))

theorem Padded.unpadded {core text : List Char} : Padded core text → Unpadded core
  | .around unpadded .. => unpadded

theorem Unpadded.padded {text : List Char} (unpadded : Unpadded text) : Padded text text := by
  have around := Padded.around unpadded [] [] nofun nofun
  rwa [List.nil_append, List.append_nil] at around

/-- Trimming leaves the text between the blanks. -/
theorem padded_iff {core text : List Char} : Padded core text ↔ trim text = core := by
  constructor
  · rintro ⟨unpadded, before, after, blankBefore, blankAfter⟩
    have inner := trim_append_of_blank unpadded blankAfter
    unfold trim trimStart at inner ⊢
    rwa [List.dropWhile_append_of_pos blankBefore]
  · rintro rfl
    have last : trim text ++ ((trimStart text).reverse.takeWhile isBlank).reverse =
        trimStart text := by
      unfold trim trimEnd
      rw [← List.reverse_append, List.takeWhile_append_dropWhile, List.reverse_reverse]
    have around := Padded.around (unpadded_trim text) (text.takeWhile isBlank)
      ((trimStart text).reverse.takeWhile isBlank).reverse
      (fun _ ↦ List.mem_takeWhile_imp) (fun _ member ↦ List.mem_takeWhile_imp
        (List.mem_reverse.mp member))
    rw [last] at around
    unfold trimStart at around
    rwa [List.takeWhile_append_dropWhile] at around

/-! ### Lower case -/

theorem lowercaseChar_of_ascii {c : Char} (ascii : c.toNat < 128) :
    lowercaseChar c = [asciiLower c] := by
  unfold lowercaseChar asciiLower
  rw [if_pos (by simpa using ascii)]
  by_cases upper : 'A' ≤ c ∧ c ≤ 'Z' <;> simp [upper]

theorem lowercaseAfter_eq_map (before : List Char) {text : List Char}
    (ascii : ∀ c ∈ text, c.toNat < 128) : lowercaseAfter before text = text.map asciiLower := by
  induction text generalizing before with
  | nil => rfl
  | cons c text ih =>
    obtain ⟨first, rest⟩ := List.forall_mem_cons.mp ascii
    have sigma : (c == 'Σ') = false := by
      rw [beq_eq_false_iff_ne]
      rintro rfl
      exact absurd first (by decide)
    rw [lowercaseAfter, ih (c :: before) rest, sigma, lowercaseChar_of_ascii first]
    rfl

/-- The lower case of an ASCII text is the lower case of its letters. -/
theorem lowercase_eq_map {text : List Char} (ascii : ∀ c ∈ text, c.toNat < 128) :
    lowercase text = text.map asciiLower :=
  lowercaseAfter_eq_map [] ascii

/-- A text of characters in lower case is its own lower case. -/
theorem map_asciiLower_of_lower {text : List Char} (lower : ∀ c ∈ text, asciiLower c = c) :
    text.map asciiLower = text := by
  rw [List.map_congr_left lower, List.map_id']

theorem lowercased_of_lower {name : String} (ascii : ∀ c ∈ name.toList, c.toNat < 128)
    (lower : ∀ c ∈ name.toList, asciiLower c = c) : lowercased name = name := by
  unfold lowercased
  rw [lowercase_eq_map ascii, map_asciiLower_of_lower lower, String.ofList_toList]

/-- ASCII texts are the same up to case when their lower cases are the same. -/
theorem sameIgnoringCase_lowercased_iff {left right : String}
    (leftAscii : ∀ c ∈ left.toList, c.toNat < 128)
    (rightAscii : ∀ c ∈ right.toList, c.toNat < 128) :
    sameIgnoringCase (lowercased left) right = true ↔ lowercased left = lowercased right := by
  have settled : ∀ c ∈ left.toList, (asciiLower ∘ asciiLower) c = asciiLower c := fun c member ↦
    @forall_ascii (fun c ↦ asciiLower (asciiLower c) = asciiLower c) (by decide) c
      (leftAscii c member)
  unfold sameIgnoringCase lowercased
  rw [String.toList_ofList, lowercase_eq_map leftAscii, lowercase_eq_map rightAscii, List.map_map,
    List.map_congr_left settled, beq_iff_eq, String.ofList_inj]

/-! ### Integers in decimal -/

/-- The characters of an integer in decimal: a minus sign for a negative one, and digits. -/
theorem toList_toString_int (value : Int) : (toString value).toList =
    if 0 ≤ value then Nat.toDigits 10 value.toNat else '-' :: Nat.toDigits 10 value.natAbs := by
  cases value with
  | ofNat magnitude =>
    show (Nat.repr magnitude).toList = _
    simp [Nat.repr]
  | negSucc less =>
    rw [if_neg (by omega)]
    show ("-" ++ Nat.repr (less + 1)).toList = _
    simp [Nat.repr]

/-- Digits have no sign before them. -/
theorem readInteger?_toDigits (n : Nat) : readInteger? (Nat.toDigits 10 n) = some (n : Int) := by
  have digits := readDigits?_toDigits n
  have member : ∀ c ∈ Nat.toDigits 10 n, isDigit c = true := fun c ↦ isDigit_of_mem_toDigits
  generalize Nat.toDigits 10 n = text at digits member
  unfold readInteger?
  split
  · exact absurd (member '-' List.mem_cons_self) (by decide)
  · unfold readNatural?
    split
    · exact absurd (member '+' List.mem_cons_self) (by decide)
    · rw [digits]
      rfl

/-- An integer in decimal is read as the integer. -/
theorem readInteger?_toString (value : Int) :
    readInteger? (toString value).toList = some value := by
  rw [toList_toString_int]
  by_cases positive : 0 ≤ value
  · rw [if_pos positive, readInteger?_toDigits, Int.toNat_of_nonneg positive]
  · rw [if_neg positive]
    have digits := readDigits?_toDigits value.natAbs
    unfold readInteger?
    simp only [digits]
    show some (-(value.natAbs : Int)) = some value
    rw [Option.some_inj]
    omega

/-- An integer in decimal is a word: digits and perhaps a minus sign. -/
theorem isWordChar_of_mem_toString {value : Int} {c : Char} (member : c ∈ (toString value).toList) :
    isWordChar c = true := by
  have digits : ∀ n : Nat, c ∈ Nat.toDigits 10 n → isWordChar c = true := by
    intro n digit
    unfold isWordChar
    rw [isDigit_of_mem_toDigits digit]
    rfl
  rw [toList_toString_int] at member
  split_ifs at member
  · exact digits _ member
  · rcases List.mem_cons.mp member with rfl | digit
    · decide
    · exact digits _ digit

/-- An integer in decimal has no blanks at its ends. -/
theorem unpadded_toString (value : Int) : Unpadded (toString value).toList :=
  .of_forall fun _ member ↦ isBlank_of_isWordChar (isWordChar_of_mem_toString member)

/-- An integer of 64 bits in decimal is read as the integer. -/
theorem readInt64?_toString (value : Int64) :
    readInt64? (toString value.toInt).toList = some value := by
  have least : Int64.minValue.toInt ≤ value.toInt := Int64.le_iff_toInt_le.mp (Int64.minValue_le _)
  have most : value.toInt ≤ Int64.maxValue.toInt := Int64.le_iff_toInt_le.mp (Int64.le_maxValue _)
  unfold readInt64?
  rw [readInteger?_toString]
  dsimp only
  rw [if_pos ⟨least, most⟩, Int64.ofInt_toInt]

end Heartbeat.Text
