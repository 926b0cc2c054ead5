import Heartbeat.Proofs.PlainText
import Heartbeat.Settings.AccessPath

/-!
# Names in lower case

The store keeps names in full lower case and looks them up without regard to ASCII case. The two fit
together because no character of a text in full lower case is one of the letters A to Z, whatever
the text was (`lower_lowercased`): so a stored name is found exactly under the names whose ASCII
lower case it is (`sameIgnoringCase_of_lower_iff`). A path that is read off a name has only such
identifiers (`AccessPath.lower_ofName`).
-/

set_option autoImplicit false
set_option relaxedAutoImplicit false

namespace Heartbeat

open Text

namespace Text

/-- A name without any of the letters A to Z. -/
def Lower (name : String) : Prop :=
  ∀ c ∈ name.toList, asciiLower c = c

/-- A string with the letters A to Z in lower case. -/
def asciiLowered (name : String) : String :=
  String.ofList (name.toList.map asciiLower)

/-! ### Full lower case -/

theorem asciiLower_of_lt {c : Char} (beyond : 'Z'.toNat < c.toNat) : asciiLower c = c := by
  unfold asciiLower
  rw [if_neg]
  exact fun upper ↦ absurd (UInt32.le_iff_toNat_le.mp upper.2) (Nat.not_le.mpr beyond)

/-- What lies past the letter Z in the order of codes, and what is no code, is no capital. -/
theorem asciiLower_ofNat {code : Nat} (beyond : 'Z'.toNat < code) :
    asciiLower (Char.ofNat code) = Char.ofNat code := by
  by_cases valid : code.isValidChar
  · have value : (Char.ofNat code).toNat = code := by
      rw [Char.ofNat, dif_pos valid]
      rfl
    exact asciiLower_of_lt (value.symm ▸ beyond)
  · -- What is no code stands for the null character.
    rw [Char.ofNat, dif_neg valid]
    rfl

/-- No run of the table of letter cases leads back to the letter Z or before it. -/
theorem lt_of_mem_lowercaseRuns {run : CaseRun} (member : run ∈ lowercaseRuns) :
    ('Z'.toNat : Int) < run.first + run.offset := by
  have all : lowercaseRuns.all (fun run ↦ ('Z'.toNat : Int) < run.first + run.offset) = true := by
    decide
  exact of_decide_eq_true (List.all_eq_true.mp all run member)

theorem asciiLower_of_mem_lowercaseChar {c lower : Char} (member : lower ∈ lowercaseChar c) :
    asciiLower lower = lower := by
  by_cases ascii : c.toNat < 128
  · rw [lowercaseChar_of_ascii ascii, List.mem_singleton] at member
    rw [member]
    exact @forall_ascii (fun c ↦ asciiLower (asciiLower c) = asciiLower c) (by decide) c ascii
  · unfold lowercaseChar at member
    rw [if_neg ascii] at member
    split at member
    · rcases List.mem_pair.mp member with rfl | rfl <;> decide
    · split at member
      next run found =>
        have holds := List.find?_some found
        have past := lt_of_mem_lowercaseRuns (List.mem_of_find?_eq_some found)
        simp only [CaseRun.holds, Bool.and_eq_true, decide_eq_true_eq] at holds
        rw [List.mem_singleton.mp member]
        exact asciiLower_ofNat (by omega)
      next =>
        rw [List.mem_singleton.mp member]
        exact asciiLower_of_lt (Nat.lt_of_lt_of_le (by decide) (Nat.not_lt.mp ascii))

theorem asciiLower_of_mem_lowercaseAfter {before text : List Char} {c : Char}
    (member : c ∈ lowercaseAfter before text) : asciiLower c = c := by
  induction text generalizing before with
  | nil => cases member
  | cons first text ih =>
    rcases List.mem_append.mp member with here | later
    · split_ifs at here
      · rw [List.mem_singleton.mp here]
        decide
      · rw [List.mem_singleton.mp here]
        decide
      · exact asciiLower_of_mem_lowercaseChar here
    · exact ih later

/-- The lower case of any text has no capital of ASCII. -/
theorem lower_lowercase (text : List Char) : Lower (String.ofList (lowercase text)) := by
  intro c member
  rw [String.toList_ofList] at member
  exact asciiLower_of_mem_lowercaseAfter member

theorem lower_lowercased (name : String) : Lower (lowercased name) :=
  lower_lowercase name.toList

/-! ### Lookups up to case -/

theorem asciiLowered_of_lower {name : String} (lower : Lower name) : asciiLowered name = name := by
  unfold asciiLowered
  rw [map_asciiLower_of_lower lower, String.ofList_toList]

/-- The lower case of an ASCII text is that of its letters. -/
theorem lowercased_of_ascii {name : String} (ascii : ∀ c ∈ name.toList, c.toNat < 128) :
    lowercased name = asciiLowered name := by
  unfold lowercased asciiLowered
  rw [lowercase_eq_map ascii]

theorem sameIgnoringCase_iff_asciiLowered {left right : String} :
    sameIgnoringCase left right = true ↔ asciiLowered left = asciiLowered right := by
  unfold sameIgnoringCase asciiLowered
  rw [beq_iff_eq, String.ofList_inj]

/-- A name in lower case is the same as those that it is the ASCII lower case of. -/
theorem sameIgnoringCase_of_lower_iff {name other : String} (lower : Lower name) :
    sameIgnoringCase name other = true ↔ name = asciiLowered other := by
  rw [sameIgnoringCase_iff_asciiLowered, asciiLowered_of_lower lower]

end Text

/-! ### Paths -/

namespace Settings

/-- The name in a step, if it has one, is in lower case. -/
def PathStep.Lower : PathStep → Prop
  | .child key => Text.Lower key
  | .place _ => True

namespace AccessPath

theorem lower_of_readSteps? {fuel : Nat} {text : List Char} {steps : List PathStep}
    (read : readSteps? fuel text = some steps) : ∀ step ∈ steps, step.Lower := by
  fun_induction readSteps? fuel text generalizing steps with
  | case1 =>
    cases read
    exact nofun
  | case4 fuel rest key named =>
    rename_i ih
    obtain ⟨others, after, rfl⟩ := Option.map_eq_some_iff.mp read
    exact List.forall_mem_cons.mpr ⟨lower_lowercase _, ih after⟩
  | case6 fuel rest c after closing ih =>
    obtain ⟨index, -, further⟩ := Option.bind_eq_some_iff.mp read
    obtain ⟨others, after, rfl⟩ := Option.map_eq_some_iff.mp further
    exact List.forall_mem_cons.mpr ⟨trivial, ih after⟩
  | _ => cases read

/-- The identifiers in the path of a name are in lower case. -/
theorem lower_ofName (name : String) :
    Text.Lower (ofName name).root ∧ ∀ step ∈ (ofName name).steps, step.Lower := by
  unfold ofName
  cases read : read? name.toList with
  | none => exact ⟨lower_lowercased name, nofun⟩
  | some path =>
    unfold read? at read
    dsimp only at read
    split_ifs at read
    obtain ⟨steps, after, rfl⟩ := Option.map_eq_some_iff.mp read
    exact ⟨lower_lowercase _, lower_of_readSteps? after⟩

end AccessPath

end Settings

end Heartbeat
