import Heartbeat.Instance.Description
import Heartbeat.Proofs.DocumentRoundTrip

/-!
# Simple names

A `Simple` name consists of small letters, digits and underscores. It is its own lower case, and an
entry with a simple key and a word as its value is plain (`plain_entry`). The keys that describe
instances are simple, and a key gives back its index and what it is about (`indexedKey_inj`).
-/

set_option autoImplicit false
set_option relaxedAutoImplicit false

namespace Heartbeat

open Heartbeat.Text

/-! ### Simple names -/

/-- Small letters, digits and the underscore. -/
def isNameChar (c : Char) : Bool :=
  isDigit c || ('a' ≤ c && c ≤ 'z') || c == '_'

/-- A name of small letters, digits and underscores. -/
structure Simple (name : String) : Prop where
  nonempty : name ≠ ""
  chars : ∀ c ∈ name.toList, isNameChar c = true

theorem isWordChar_of_isNameChar {c : Char} (simple : isNameChar c = true) :
    isWordChar c = true := by
  unfold isNameChar at simple
  unfold isWordChar
  simp only [Bool.or_eq_true] at simple ⊢
  rcases simple with (digit | small) | underscore
  · exact .inl (.inl (.inl (.inl digit)))
  · exact .inl (.inl (.inl (.inr small)))
  · exact .inl (.inr underscore)

namespace Simple

variable {name : String}

theorem of_all (nonempty : name ≠ "") (all : name.toList.all isNameChar = true) : Simple name :=
  ⟨nonempty, List.all_eq_true.mp all⟩

theorem word (simple : Simple name) : ∀ c ∈ name.toList, isWordChar c = true :=
  fun c member ↦ isWordChar_of_isNameChar (simple.chars c member)

theorem ascii (simple : Simple name) : ∀ c ∈ name.toList, c.toNat < 128 :=
  fun c member ↦ ascii_of_isWordChar (simple.word c member)

theorem unpadded (simple : Simple name) : Unpadded name.toList :=
  .of_forall fun c member ↦ isBlank_of_isWordChar (simple.word c member)

theorem lower (simple : Simple name) : ∀ c ∈ name.toList, asciiLower c = c := by
  intro c member
  have small : isNameChar c = true → asciiLower c = c :=
    @forall_wordChar (fun c ↦ isNameChar c = true → asciiLower c = c) (by decide) c
      (simple.word c member)
  exact small (simple.chars c member)

/-- A simple name is in lower case. -/
theorem lowercased_eq (simple : Simple name) : lowercased name = name :=
  lowercased_of_lower simple.ascii simple.lower

end Simple

/-! ### Plain parts of the documents -/

/-- The characters of words have no meaning where names, keys and values are read. -/
theorem unmarked_of_isWordChar {wrap : Ini.Piece → Ini.Pending} {ending : Ini.Ending}
    (wraps : Ini.Wraps wrap ending) {c : Char} (word : isWordChar c = true) :
    c ≠ '\\' ∧ ending.chars.contains c = false := by
  cases wraps
  · exact @forall_wordChar
      (fun c ↦ c ≠ '\\' ∧ Ini.Ending.closingBracket.chars.contains c = false) (by decide) c word
  · exact @forall_wordChar
      (fun c ↦ c ≠ '\\' ∧ Ini.Ending.separator.chars.contains c = false) (by decide) c word
  · exact @forall_wordChar
      (fun c ↦ c ≠ '\\' ∧ Ini.Ending.endOfLine.chars.contains c = false) (by decide) c word

/-- A word is plain where names, keys and values are read. -/
theorem plain_of_word {wrap : Ini.Piece → Ini.Pending} {ending : Ini.Ending}
    (wraps : Ini.Wraps wrap ending) {text : List Char} (word : ∀ c ∈ text, isWordChar c = true) :
    Ini.Plain ending text :=
  ⟨.of_forall fun c member ↦ isBlank_of_isWordChar (word c member),
    fun c member ↦ unmarked_of_isWordChar wraps (word c member)⟩

/-- An entry with a simple key and a word as its value is plain. -/
theorem plain_entry {entry : Ini.Entry} (simple : Simple entry.key)
    (word : ∀ c ∈ entry.value.toList, isWordChar c = true) : entry.Plain where
  named := simple.nonempty
  key := plain_of_word .key simple.word
  keyHead c first := @forall_wordChar (fun c ↦ c ≠ ';' ∧ c ≠ '#' ∧ c ≠ '[') (by decide) c
    (simple.word c (List.mem_of_mem_head? first))
  value := plain_of_word (.value entry.key) word
  valueHead c first := @forall_wordChar (fun c ↦ c ≠ '"' ∧ c ≠ '\'') (by decide) c
    (word c (List.mem_of_mem_head? first))

/-- The entry of an integer is plain if its key is simple. -/
theorem plain_integerEntry {key : String} (simple : Simple key) (value : Int64) :
    (integerEntry key value).Plain :=
  plain_entry simple fun _ member ↦ isWordChar_of_mem_toString member

/-! ### The keys -/

theorem simple_portKey : Simple portKey := .of_all (by decide) (by decide)

theorem simple_nameKey : Simple nameKey := .of_all (by decide) (by decide)

theorem simple_delayKey : Simple delayKey := .of_all (by decide) (by decide)

theorem simple_intervalKey : Simple intervalKey := .of_all (by decide) (by decide)

theorem toList_indexedKey (index : UInt32) (key : String) :
    (indexedKey index key).toList = Nat.toDigits 10 index.toNat ++ '_' :: key.toList := by
  unfold indexedKey
  rw [String.toList_append, String.toList_append, List.append_assoc, Nat.toString_eq_repr,
    Nat.toList_repr]
  rfl

/-- The index in a key consists of its first digits. -/
theorem takeWhile_indexedKey (index : UInt32) (key : String) :
    (indexedKey index key).toList.takeWhile isDigit = Nat.toDigits 10 index.toNat := by
  have digits : ∀ c ∈ Nat.toDigits 10 index.toNat, isDigit c = true :=
    fun c ↦ isDigit_of_mem_toDigits
  rw [toList_indexedKey, List.takeWhile_append_of_pos digits,
    List.takeWhile_cons_of_neg (by decide), List.append_nil]

/-- A key gives back the index and what is said about the instance. -/
theorem indexedKey_inj {first second : UInt32} {key other : String}
    (same : indexedKey first key = indexedKey second other) : first = second ∧ key = other := by
  have digits : Nat.toDigits 10 first.toNat = Nat.toDigits 10 second.toNat := by
    rw [← takeWhile_indexedKey first key, same, takeWhile_indexedKey]
  have rest := congrArg String.toList same
  rw [toList_indexedKey, toList_indexedKey, digits, List.append_cancel_left_eq,
    List.cons.injEq] at rest
  have number := congrArg digitsValue digits
  rw [digitsValue_toDigits, digitsValue_toDigits] at number
  exact ⟨UInt32.toNat_inj.mp number, String.toList_inj.mp rest.2⟩

theorem indexedKey_ne_portKey (index : UInt32) (key : String) : indexedKey index key ≠ portKey := by
  intro same
  have digits := takeWhile_indexedKey index key
  rw [same] at digits
  exact Nat.toDigits_ne_nil digits.symm

theorem simple_indexedKey (index : UInt32) {key : String} (simple : Simple key) :
    Simple (indexedKey index key) := by
  refine ⟨fun empty ↦ ?_, fun c member ↦ ?_⟩
  · have chars := toList_indexedKey index key
    rw [empty] at chars
    simp at chars
  · rw [toList_indexedKey] at member
    rcases List.mem_append.mp member with digit | rest
    · unfold isNameChar
      rw [isDigit_of_mem_toDigits digit]
      rfl
    · rcases List.mem_cons.mp rest with rfl | inside
      · decide
      · exact simple.chars c inside

end Heartbeat
