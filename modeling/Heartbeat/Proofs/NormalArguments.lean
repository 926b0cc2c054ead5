import Heartbeat.Argument
import Heartbeat.Proofs.NumeralGrammar

/-!
# Normal arguments

The arguments of an instance as they are taken. `Indicates` says which texts stand for an index:
`readIndex` takes these and replaces every other one (`readIndex_eq_iff`, `readIndex_replaced_iff`).
`Designates` says which texts stand for a role of an unknown name (`readRole_unrecognized_iff`).
What is taken is normal: written out and read again, it comes back without an error
(`readIndex_printed`, `readRole_printed`).
-/

set_option autoImplicit false
set_option relaxedAutoImplicit false

namespace Heartbeat

open Heartbeat.Text

/-! ### Indices -/

/-- A text stands for a positive number of 32 bits: between blanks it is the number in digits, with
or without a plus sign. -/
structure Indicates (raw : String) (number : ℕ) : Prop where
  positive : 1 ≤ number
  small : number < 2 ^ 32
  written : ∃ core, Padded core raw.toList ∧ Unsigned core number

theorem indicates_toNat_iff {raw : String} {index : UInt32} :
    Indicates raw index.toNat ↔ 0 < index ∧ readUInt32? (trim raw.toList) = some index := by
  rw [readUInt32?_iff_unsigned]
  constructor
  · rintro ⟨positive, -, core, padded, unsigned⟩
    exact ⟨positive, padded_iff.mp padded ▸ unsigned⟩
  · rintro ⟨positive, unsigned⟩
    exact ⟨positive, index.toNat_lt, _, padded_iff.mpr rfl, unsigned⟩

/-- What a text stands for is an integer of 32 bits. -/
theorem Indicates.exists_toNat {raw : String} {number : ℕ} (indicates : Indicates raw number) :
    ∃ index : UInt32, index.toNat = number :=
  ⟨UInt32.ofNat number, UInt32.toNat_ofNat_of_lt' indicates.small⟩

theorem readIndex_of_indicates {raw : String} {index : UInt32}
    (indicates : Indicates raw index.toNat) : readIndex (some raw) = (index, none) := by
  obtain ⟨positive, read⟩ := indicates_toNat_iff.mp indicates
  simp only [readIndex, read, if_pos positive]

/-- A text that stands for no index is replaced by the first one, and the error has the text as it
was given. -/
theorem readIndex_of_not_indicates {raw : String} (unusable : ∀ number, ¬ Indicates raw number) :
    readIndex (some raw) = (1, some (.index raw 1)) := by
  simp only [readIndex]
  split
  next index read =>
    have zero : ¬ 0 < index := fun positive ↦
      unusable _ (indicates_toNat_iff.mpr ⟨positive, read⟩)
    exact if_neg zero
  next => rfl

/-- A text stands for an index or for none. -/
theorem readIndex_cases (raw : String) :
    (∃ index, Indicates raw index.toNat ∧ readIndex (some raw) = (index, none)) ∨
      (∀ number, ¬ Indicates raw number) ∧ readIndex (some raw) = (1, some (.index raw 1)) := by
  by_cases usable : ∃ number, Indicates raw number
  · obtain ⟨number, indicates⟩ := usable
    obtain ⟨index, rfl⟩ := indicates.exists_toNat
    exact .inl ⟨index, indicates, readIndex_of_indicates indicates⟩
  · have unusable := not_exists.mp usable
    exact .inr ⟨unusable, readIndex_of_not_indicates unusable⟩

theorem readIndex_eq_iff {raw : String} {index : UInt32} :
    readIndex (some raw) = (index, none) ↔ Indicates raw index.toNat := by
  refine ⟨fun taken ↦ ?_, readIndex_of_indicates⟩
  rcases readIndex_cases raw with ⟨found, indicates, read⟩ | ⟨-, read⟩
  · rw [read, Prod.mk.injEq] at taken
    exact taken.1 ▸ indicates
  · rw [read] at taken
    nomatch taken

theorem readIndex_replaced_iff {raw : String} :
    readIndex (some raw) = (1, some (.index raw 1)) ↔ ∀ number, ¬ Indicates raw number := by
  refine ⟨fun replaced ↦ ?_, readIndex_of_not_indicates⟩
  rcases readIndex_cases raw with ⟨found, -, read⟩ | ⟨unusable, -⟩
  · rw [read] at replaced
    nomatch replaced
  · exact unusable

/-- An index in decimal stands for itself. -/
theorem indicates_toString {index : UInt32} (positive : 0 < index) :
    Indicates (toString index.toNat) index.toNat :=
  ⟨positive, index.toNat_lt, _, (unpadded_toString (index.toNat : ℤ)).padded,
    unsigned_toString index.toNat⟩

/-- No index is zero. -/
theorem readIndex_pos (raw : Option String) : 0 < (readIndex raw).1 := by
  cases raw with
  | none => decide
  | some raw =>
    rcases readIndex_cases raw with ⟨index, indicates, read⟩ | ⟨-, read⟩
    · rw [read]
      exact indicates.positive
    · rw [read]
      exact Nat.one_pos

theorem readIndex_printed (raw : Option String) :
    readIndex (some (toString (readIndex raw).1.toNat)) = ((readIndex raw).1, none) :=
  readIndex_eq_iff.mpr (indicates_toString (readIndex_pos raw))

/-! ### Roles -/

/-- The names that a role is known by. -/
def Role.knownNames : List String := ["crash", "noheartbeat", "noping"]

theorem Role.ofName_eq_unrecognized_iff {given name : String} :
    Role.ofName given = .unrecognized name ↔ given = name ∧ given ∉ Role.knownNames := by
  unfold Role.ofName Role.knownNames
  split_ifs with crash silent
  · simp [crash]
  · rcases silent with rfl | rfl <;> simp
  · rw [not_or] at silent
    simp [crash, silent.1, silent.2]

/-- A text stands for a role of an unknown name: the name between blanks. -/
structure Designates (raw name : String) : Prop where
  padded : Padded name.toList raw.toList
  named : name ≠ ""
  unknown : name ∉ Role.knownNames

theorem trimmed_eq_iff {raw name : String} :
    trimmed raw = name ↔ Padded name.toList raw.toList := by
  unfold trimmed
  rw [padded_iff, ← String.toList_inj, String.toList_ofList]

theorem trimmed_eq_empty_iff {raw : String} :
    trimmed raw = "" ↔ ∀ c ∈ raw.toList, isBlank c = true := by
  rw [trimmed_eq_iff, padded_iff]
  exact trim_eq_nil_iff

theorem readRole_of_blank {raw : String} (blank : trimmed raw = "") :
    readRole (some raw) = (.crash, some (.role "crash")) :=
  if_pos blank

theorem readRole_of_named {raw : String} (named : trimmed raw ≠ "") :
    readRole (some raw) = (Role.ofName (trimmed raw), none) :=
  if_neg named

theorem readRole_error_iff {raw : Option String} {error : ArgumentError} :
    (readRole raw).2 = some error ↔
      error = .role "crash" ∧ ∃ text, raw = some text ∧ ∀ c ∈ text.toList, isBlank c = true := by
  cases raw with
  | none =>
    refine ⟨nofun, ?_⟩
    rintro ⟨-, text, given, -⟩
    nomatch given
  | some text =>
    simp only [Option.some_inj, exists_eq_left', ← trimmed_eq_empty_iff]
    by_cases blank : trimmed text = ""
    · rw [readRole_of_blank blank, Option.some_inj, eq_comm, and_iff_left blank]
    · rw [readRole_of_named blank]
      exact ⟨nofun, fun ⟨_, empty⟩ ↦ absurd empty blank⟩

theorem readRole_unrecognized_iff {raw : Option String} {name : String} :
    (readRole raw).1 = .unrecognized name ↔ ∃ text, raw = some text ∧ Designates text name := by
  cases raw with
  | none =>
    refine ⟨nofun, ?_⟩
    rintro ⟨text, given, -⟩
    nomatch given
  | some text =>
    simp only [Option.some_inj, exists_eq_left']
    constructor
    · intro read
      by_cases blank : trimmed text = ""
      · rw [readRole_of_blank blank] at read
        nomatch read
      · rw [readRole_of_named blank, Role.ofName_eq_unrecognized_iff] at read
        obtain ⟨rfl, unknown⟩ := read
        exact ⟨trimmed_eq_iff.mp rfl, blank, unknown⟩
    · rintro ⟨padded, named, unknown⟩
      obtain rfl := trimmed_eq_iff.mpr padded
      rw [readRole_of_named named]
      exact Role.ofName_eq_unrecognized_iff.mpr ⟨rfl, unknown⟩

/-- The name of a role that was read names the role: it is in its known form or has no blanks at its
ends. -/
theorem readRole_printed (raw : Option String) :
    readRole (some (readRole raw).1.name) = ((readRole raw).1, none) := by
  cases read : (readRole raw).1 with
  | crash => decide
  | noHeartbeat => decide
  | unrecognized name =>
    obtain ⟨text, -, designates⟩ := readRole_unrecognized_iff.mp read
    have settled : trimmed name = name := trimmed_eq_iff.mpr designates.padded.unpadded.padded
    have named : trimmed name ≠ "" := by
      rw [settled]
      exact designates.named
    rw [Role.name, readRole_of_named named, settled]
    exact congrArg (·, none) (Role.ofName_eq_unrecognized_iff.mpr ⟨rfl, designates.unknown⟩)

/-! ### Both arguments -/

/-- The arguments of an instance are taken exactly when they are usable, and what is taken is
normal. -/
theorem arguments_normalized :
    (∀ raw : String,
      (∀ index, readIndex (some raw) = (index, none) ↔ Indicates raw index.toNat) ∧
      (readIndex (some raw) = (1, some (.index raw 1)) ↔ ∀ number, ¬ Indicates raw number)) ∧
    ∀ rawIndex rawRole : Option String,
      readIndex (some (toString (readIndex rawIndex).1.toNat)) = ((readIndex rawIndex).1, none) ∧
      readRole (some (readRole rawRole).1.name) = ((readRole rawRole).1, none) ∧
      (∀ error, (readRole rawRole).2 = some error ↔
        error = .role "crash" ∧ ∃ text, rawRole = some text ∧ ∀ c ∈ text.toList, isBlank c = true) ∧
      ∀ name, (readRole rawRole).1 = .unrecognized name ↔
        ∃ text, rawRole = some text ∧ Designates text name :=
  ⟨fun _ ↦ ⟨fun _ ↦ readIndex_eq_iff, readIndex_replaced_iff⟩, fun rawIndex rawRole ↦
    ⟨readIndex_printed rawIndex, readRole_printed rawRole, fun _ ↦ readRole_error_iff,
      fun _ ↦ readRole_unrecognized_iff⟩⟩

-- The greatest index, between blanks and with a sign and zeros before it, and the number after it.
example : readIndex (some "\u2003+004294967295\u00a0") = (4294967295, none) ∧
    readIndex (some " 4294967296") = (1, some (.index " 4294967296" 1)) := by decide

end Heartbeat
