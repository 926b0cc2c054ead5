import Heartbeat.Proofs.NumeralGrammar
import Heartbeat.Proofs.StoredNames

/-!
# Lookups of integers and of texts

The four lookups of a store see the same entries. `Store.Offers` says which text stands under two
names, up to ASCII case, and in a store that was loaded the lookups find exactly that text
(`Store.find?_eq_some_iff`). `Denotes` says which integer of 64 bits a text is the numeral of, and
`Store.getInt_eq_ok_iff` and `Store.getInt_of_not_denotes` what becomes of a text that is there. A
default stands in for a missing entry and for nothing else (`Accessor.orDefault_of_present`).
`Store.typed_lookups_agree` is the statement for every text that loads.
-/

set_option autoImplicit false
set_option relaxedAutoImplicit false

namespace Heartbeat

open Text

namespace Settings

/-! ### Texts of integers -/

/-- A text is the numeral of an integer of 64 bits: between blanks it is the integer in digits, with
or without a sign. -/
structure Denotes (text : String) (number : ℤ) : Prop where
  least : -2 ^ 63 ≤ number
  most : number ≤ 2 ^ 63 - 1
  written : ∃ core, Padded core text.toList ∧ Signed core number

theorem denotes_toInt_iff {text : String} {number : Int64} :
    Denotes text number.toInt ↔ readInt64? (trim text.toList) = some number := by
  rw [readInt64?_iff_signed]
  constructor
  · rintro ⟨-, -, core, padded, signed⟩
    exact padded_iff.mp padded ▸ signed
  · intro signed
    exact ⟨number.le_toInt, Int.le_sub_one_of_lt number.toInt_lt, _, padded_iff.mpr rfl, signed⟩

/-- What a text denotes is an integer of 64 bits. -/
theorem Denotes.exists_toInt {text : String} {number : ℤ} (denotes : Denotes text number) :
    ∃ value : Int64, value.toInt = number :=
  ⟨Int64.ofInt number, Int64.toInt_ofInt_of_le denotes.least (Int.lt_of_le_sub_one denotes.most)⟩

/-- An integer in decimal denotes itself. -/
theorem denotes_toString (number : Int64) : Denotes (toString number.toInt) number.toInt := by
  rw [denotes_toInt_iff, trim_of_unpadded (unpadded_toString number.toInt), readInt64?_toString]

/-! ### Defaults -/

namespace Accessor

variable {α : Type}

/-- No default stands in for an answer that says more than that the key is missing. -/
theorem orDefault_of_present (fallback : α) {answer : Except ConfigError α}
    (present : ∀ error, answer = .error error → error.isMissing = false) :
    orDefault fallback answer = answer := by
  cases answer with
  | ok value => rfl
  | error error => simp [orDefault, present error rfl]

end Accessor

/-! ### Entries that match -/

namespace Store

/-- A text stands under two names in a store, up to ASCII case. -/
def Offers (store : Store) (sectionName key value : String) : Prop :=
  ∃ stored ∈ store.sections, ∃ entry ∈ stored.entries,
    sameIgnoringCase stored.name sectionName = true ∧ sameIgnoringCase entry.1 key = true ∧
      entry.2 = value

/-- No text stands under two names in a store. -/
def Lacks (store : Store) (sectionName key : String) : Prop :=
  ∀ value, ¬ store.Offers sectionName key value

variable {store : Store} {sectionName key value : String}

theorem offers_of_find? (found : store.find? sectionName key = some value) :
    store.Offers sectionName key value := by
  obtain ⟨stored, here, inside⟩ := Option.bind_eq_some_iff.mp found
  obtain ⟨entry, there, rfl⟩ := Option.map_eq_some_iff.mp inside
  have sameSection := List.find?_some here
  have sameKey := List.find?_some there
  exact ⟨stored, List.mem_of_find?_eq_some here, entry, List.mem_of_find?_eq_some there,
    sameSection, sameKey, rfl⟩

theorem exists_document_of_ofText {text : String} {file : Option String}
    {notices : List LoadNotice} (loaded : ofText text file = .ok ⟨notices, .ok store⟩) :
    ∃ document, ofDocument document = .ok ⟨notices, .ok store⟩ := by
  unfold ofText at loaded
  split at loaded
  next document _ => exact ⟨document, loaded⟩
  next => cases loaded

/-- In a store that was loaded no other entry comes before the one that matches. -/
theorem find?_eq_some_iff {text : String} {file : Option String} {notices : List LoadNotice}
    (loaded : ofText text file = .ok ⟨notices, .ok store⟩) :
    store.find? sectionName key = some value ↔ store.Offers sectionName key value := by
  refine ⟨offers_of_find?, ?_⟩
  rintro ⟨stored, member, entry, listed, sameSection, sameKey, rfl⟩
  obtain ⟨document, whole⟩ := exists_document_of_ofText loaded
  obtain ⟨tree, made, tables⟩ := exists_treeOf whole
  exact find?_of_mem (tidy_of_treeOf made) tables member listed sameSection sameKey

theorem find?_eq_none_iff {text : String} {file : Option String} {notices : List LoadNotice}
    (loaded : ofText text file = .ok ⟨notices, .ok store⟩) :
    store.find? sectionName key = none ↔ store.Lacks sectionName key := by
  rw [Option.eq_none_iff_forall_ne_some]
  exact forall_congr' fun value ↦ not_congr (find?_eq_some_iff loaded)

/-! ### Answers -/

theorem getString_eq_ok_iff :
    store.getString sectionName key = .ok value ↔ store.find? sectionName key = some value := by
  unfold getString
  cases store.find? sectionName key <;> simp

theorem getString_eq_missing_iff :
    store.getString sectionName key = .error (.missingKey sectionName key) ↔
      store.find? sectionName key = none := by
  unfold getString
  cases store.find? sectionName key <;> simp

theorem getInt_of_none (missing : store.find? sectionName key = none) :
    store.getInt sectionName key = .error (.missingKey sectionName key) := by
  unfold getInt
  rw [missing]

theorem getInt_of_denotes (found : store.find? sectionName key = some value) {number : Int64}
    (denotes : Denotes value number.toInt) : store.getInt sectionName key = .ok number := by
  unfold getInt
  simp only [found, denotes_toInt_iff.mp denotes]

/-- A text that is there and is no numeral is an error of its own, with the text as it stands. -/
theorem getInt_of_not_denotes (found : store.find? sectionName key = some value)
    (malformed : ∀ number, ¬ Denotes value number) :
    store.getInt sectionName key = .error (.invalidValue sectionName key value) := by
  have unread : readInt64? (trim value.toList) = none :=
    Option.eq_none_iff_forall_ne_some.mpr fun number read ↦
      malformed number.toInt (denotes_toInt_iff.mpr read)
  unfold getInt
  simp only [found, unread]

/-- A text that is there denotes an integer or none. -/
theorem getInt_cases (found : store.find? sectionName key = some value) :
    (∃ number : Int64, Denotes value number.toInt ∧ store.getInt sectionName key = .ok number) ∨
      (∀ number, ¬ Denotes value number) ∧
        store.getInt sectionName key = .error (.invalidValue sectionName key value) := by
  by_cases numeral : ∃ number, Denotes value number
  · obtain ⟨number, denotes⟩ := numeral
    obtain ⟨value, rfl⟩ := denotes.exists_toInt
    exact .inl ⟨value, denotes, getInt_of_denotes found denotes⟩
  · have malformed := not_exists.mp numeral
    exact .inr ⟨malformed, getInt_of_not_denotes found malformed⟩

theorem getInt_eq_ok_iff (found : store.find? sectionName key = some value) {number : Int64} :
    store.getInt sectionName key = .ok number ↔ Denotes value number.toInt := by
  refine ⟨fun read ↦ ?_, getInt_of_denotes found⟩
  rcases getInt_cases found with ⟨other, denotes, own⟩ | ⟨-, failed⟩
  · cases own.symm.trans read
    exact denotes
  · nomatch failed.symm.trans read

/-- A text that is there is never missing as an integer. -/
theorem isMissing_of_getInt (found : store.find? sectionName key = some value)
    {error : ConfigError} (failed : store.getInt sectionName key = .error error) :
    error.isMissing = false := by
  rcases getInt_cases found with ⟨number, -, own⟩ | ⟨-, own⟩
  · nomatch own.symm.trans failed
  · cases own.symm.trans failed
    rfl

theorem getInt_eq_missing_iff :
    store.getInt sectionName key = .error (.missingKey sectionName key) ↔
      store.find? sectionName key = none := by
  refine ⟨fun failed ↦ ?_, getInt_of_none⟩
  cases found : store.find? sectionName key with
  | none => rfl
  | some value => nomatch isMissing_of_getInt found failed

/-! ### All lookups -/

/-- The four lookups under two names agree on the entry that matches the names: whether there is
one, which text and which integer it is, and whether a default stands in for it. -/
structure LookupsAgree (store : Store) (sectionName key : String) : Prop where
  intMissing : store.accessor.getInt sectionName key = .error (.missingKey sectionName key) ↔
    store.Lacks sectionName key
  stringMissing : store.accessor.getString sectionName key = .error (.missingKey sectionName key) ↔
    store.Lacks sectionName key
  string : ∀ value, store.accessor.getString sectionName key = .ok value ↔
    store.Offers sectionName key value
  int : ∀ value, store.accessor.getString sectionName key = .ok value → ∀ number : Int64,
    (store.accessor.getInt sectionName key = .ok number ↔ Denotes value number.toInt)
  malformed : ∀ value, store.accessor.getString sectionName key = .ok value →
    (∀ number, ¬ Denotes value number) →
      store.accessor.getInt sectionName key = .error (.invalidValue sectionName key value)
  intDefault : store.Lacks sectionName key → ∀ fallback,
    store.accessor.getIntOr sectionName key fallback = .ok fallback
  stringDefault : store.Lacks sectionName key → ∀ fallback,
    store.accessor.getStringOr sectionName key fallback = .ok fallback
  intKept : ¬ store.Lacks sectionName key → ∀ fallback,
    store.accessor.getIntOr sectionName key fallback = store.accessor.getInt sectionName key
  stringKept : ¬ store.Lacks sectionName key → ∀ fallback,
    store.accessor.getStringOr sectionName key fallback = store.accessor.getString sectionName key

theorem lookupsAgree {text : String} {file : Option String} {notices : List LoadNotice}
    (loaded : ofText text file = .ok ⟨notices, .ok store⟩) (sectionName key : String) :
    store.LookupsAgree sectionName key where
  intMissing := getInt_eq_missing_iff.trans (find?_eq_none_iff loaded)
  stringMissing := getString_eq_missing_iff.trans (find?_eq_none_iff loaded)
  string _ := getString_eq_ok_iff.trans (find?_eq_some_iff loaded)
  int _ there _ := getInt_eq_ok_iff (getString_eq_ok_iff.mp there)
  malformed _ there := getInt_of_not_denotes (getString_eq_ok_iff.mp there)
  intDefault lacks fallback := by
    have missing := getInt_of_none ((find?_eq_none_iff loaded).mpr lacks)
    exact congrArg (Accessor.orDefault fallback) missing
  stringDefault lacks fallback := by
    have missing := getString_eq_missing_iff.mpr ((find?_eq_none_iff loaded).mpr lacks)
    exact congrArg (Accessor.orDefault fallback) missing
  intKept present fallback := by
    obtain ⟨value, found⟩ := Option.ne_none_iff_exists'.mp
      (mt (find?_eq_none_iff loaded).mp present)
    exact Accessor.orDefault_of_present fallback fun error ↦ isMissing_of_getInt found
  stringKept present fallback := by
    obtain ⟨value, found⟩ := Option.ne_none_iff_exists'.mp
      (mt (find?_eq_none_iff loaded).mp present)
    have there := getString_eq_ok_iff.mpr found
    exact Accessor.orDefault_of_present fallback fun error failed ↦ nomatch there.symm.trans failed

/-- An integer in decimal is read wherever it stands in a store. -/
theorem getInt_of_offers {text : String} {file : Option String} {notices : List LoadNotice}
    (loaded : ofText text file = .ok ⟨notices, .ok store⟩) {number : Int64}
    (offers : store.Offers sectionName key (toString number.toInt)) :
    store.getInt sectionName key = .ok number :=
  getInt_of_denotes ((find?_eq_some_iff loaded).mpr offers) (denotes_toString number)

/-- In the store of every text that loads, the four lookups agree under all names, and an integer
that stands there in decimal is read. A document whose sections and entries all stand for themselves
is stored with every integer that it has in decimal. -/
theorem typed_lookups_agree :
    (∀ text file notices store, ofText text file = .ok ⟨notices, .ok store⟩ →
      ∀ sectionName key, store.LookupsAgree sectionName key ∧
        ∀ number : Int64, store.Offers sectionName key (toString number.toInt) →
          store.accessor.getInt sectionName key = .ok number) ∧
    ∀ text file document, Ini.Document.read text.toList = .ok document → Lossless document →
      ∃ notices store, ofText text file = .ok ⟨notices, .ok store⟩ ∧
        ∀ sectionName key (number : Int64),
          document.Holds sectionName ⟨key, toString number.toInt⟩ →
            store.accessor.getInt sectionName key = .ok number := by
  constructor
  · intro text file notices store loaded sectionName key
    exact ⟨lookupsAgree loaded sectionName key, fun number ↦ getInt_of_offers loaded⟩
  · intro text file document read lossless
    have whole : ofText text file = ofDocument document := by
      unfold ofText
      rw [read]
    refine ⟨_, _, whole.trans (ofDocument_eq lossless), fun sectionName key number holds ↦ ?_⟩
    exact getInt_of_holds lossless holds

/-- The least integer of 64 bits, and the number after the greatest. -/
def limitsText : String :=
  "[Limits]\nLeast = -9223372036854775808\nBeyond = 9223372036854775808\n"

theorem typed_lookups_agree_limits :
    ∃ notices store, load limitsText = .ok ⟨notices, .ok store⟩ ∧
      store.accessor.getInt "LIMITS" "least" = .ok Int64.minValue ∧
      store.accessor.getInt "limits" "BEYOND" =
        .error (.invalidValue "limits" "BEYOND" "9223372036854775808") ∧
      store.accessor.getIntOr "limits" "BEYOND" 0 =
        .error (.invalidValue "limits" "BEYOND" "9223372036854775808") ∧
      store.accessor.getIntOr "limits" "step" 5 = .ok 5 := by
  have read : Ini.Document.read limitsText.toList = .ok ⟨[], [⟨"Limits",
      [⟨"Least", "-9223372036854775808"⟩, ⟨"Beyond", "9223372036854775808"⟩]⟩]⟩ := by
    decide +kernel
  have loaded : load limitsText = .ok ⟨[.found 1], .ok ⟨[⟨"limits",
      [("least", "-9223372036854775808"), ("beyond", "9223372036854775808")]⟩]⟩⟩ :=
    (load_of_read read).trans rfl
  have agree := typed_lookups_agree.1 limitsText none _ _ loaded
  have malformed : ∀ number, ¬ Denotes "9223372036854775808" number := by
    intro number denotes
    obtain ⟨value, rfl⟩ := denotes.exists_toInt
    have unread : readInt64? (trim "9223372036854775808".toList) = none := by decide
    nomatch unread.symm.trans (denotes_toInt_iff.mp denotes)
  have beyond := (agree "limits" "BEYOND").1.malformed "9223372036854775808" rfl malformed
  have lacks : Lacks _ "limits" "step" := (agree "limits" "step").1.stringMissing.mp rfl
  refine ⟨_, _, loaded, ?_, beyond, ?_, (agree "limits" "step").1.intDefault lacks 5⟩
  · exact (agree "LIMITS" "least").2 Int64.minValue
      ⟨_, List.mem_cons_self, _, List.mem_cons_self, by decide, by decide, rfl⟩
  · refine ((agree "limits" "BEYOND").1.intKept (fun none ↦ ?_) 0).trans beyond
    exact none _ (((agree "limits" "BEYOND").1.string "9223372036854775808").mp rfl)

end Store

end Settings

end Heartbeat
