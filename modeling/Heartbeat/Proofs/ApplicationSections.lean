import Heartbeat.Instance.Resolution
import Heartbeat.Proofs.PlainText

/-!
# Application sections

A section is an application section if its name begins with the mark in any ASCII case
(`isApplication_iff_exists_append`). Names are any text, but whatever is the same as the mark up to
ASCII case consists of ASCII characters and takes as many bytes as the mark. So the name of an
application section can be cut at the byte where the mark ends: a character begins there, or the
name ends, and the rest is the name of the instance (`isApplication_iff_exists_pos`).

An instance owns the application section that has as many others before it as its index says
(`OwnsSection`), and `applicationSection?` finds that section (`applicationSection?_eq_some_iff`).
The layout `auto` depends on the sections in nothing but whether there is any application section
(`Layout.effective_auto_of_exists`, `Layout.effective_auto_of_forall`).
-/

set_option autoImplicit false
set_option relaxedAutoImplicit false

namespace Heartbeat

open Heartbeat.Settings Heartbeat.Text

/-! ### Texts that are the same up to ASCII case -/

namespace Text

theorem ascii_of_asciiLower {c : Char} (ascii : (asciiLower c).toNat < 128) : c.toNat < 128 := by
  unfold asciiLower at ascii
  split_ifs at ascii with upper
  · exact Nat.lt_of_le_of_lt (UInt32.le_iff_toNat_le.mp upper.2) (by decide)
  · exact ascii

theorem sameIgnoringCase_iff {left right : String} : sameIgnoringCase left right = true ↔
    left.toList.map asciiLower = right.toList.map asciiLower :=
  beq_iff_eq

/-- An ASCII text has as many bytes as characters. -/
theorem utf8ByteSize_of_ascii {text : List Char} (ascii : ∀ c ∈ text, c.toNat < 128) :
    (String.ofList text).utf8ByteSize = text.length := by
  induction text with
  | nil => rfl
  | cons c text ih =>
    obtain ⟨first, others⟩ := List.forall_mem_cons.mp ascii
    have one : (String.ofList [c]).utf8ByteSize = 1 := by
      rw [← String.singleton_eq_ofList, String.utf8ByteSize_singleton]
      exact Char.utf8Size_eq_one_iff.mpr (UInt32.le_iff_toNat_le.mpr (Nat.le_of_lt_succ first))
    rw [← List.singleton_append, String.ofList_append, String.utf8ByteSize_append, ih others, one,
      List.length_append, List.length_singleton]

/-- What is the same as an ASCII text up to case has as many characters and bytes. -/
theorem size_eq_of_sameIgnoringCase {left right : String}
    (same : sameIgnoringCase left right = true) (ascii : ∀ c ∈ right.toList, c.toNat < 128) :
    left.toList.length = right.toList.length ∧ left.utf8ByteSize = right.utf8ByteSize := by
  have mapped := sameIgnoringCase_iff.mp same
  have length : left.toList.length = right.toList.length := by
    simpa using congrArg List.length mapped
  have lower : ∀ c ∈ right.toList, (asciiLower c).toNat < 128 := fun c member ↦
    @forall_ascii (fun c ↦ (asciiLower c).toNat < 128) (by decide) c (ascii c member)
  have leftAscii : ∀ c ∈ left.toList, c.toNat < 128 := by
    intro c member
    have image : asciiLower c ∈ right.toList.map asciiLower :=
      mapped ▸ List.mem_map_of_mem member
    obtain ⟨d, other, equal⟩ := List.mem_map.mp image
    exact ascii_of_asciiLower (equal ▸ lower d other)
  have bytes := utf8ByteSize_of_ascii leftAscii
  have others := utf8ByteSize_of_ascii ascii
  rw [String.ofList_toList] at bytes others
  exact ⟨length, by rw [bytes, others, length]⟩

end Text

/-! ### The mark -/

section Mark

variable {sectionName mark rest : String}

theorem ascii_applicationMark : ∀ c ∈ applicationMark.toList, c.toNat < 128 := by
  have all : applicationMark.toList.all (fun c ↦ c.toNat < 128) = true := by decide
  exact fun c member ↦ of_decide_eq_true (List.all_eq_true.mp all c member)

/-- A name that begins with the mark in any case is that of an application section, and the rest of
it is the name of the instance. -/
theorem isApplication_append (marked : sameIgnoringCase mark applicationMark = true) :
    isApplication (mark ++ rest) = true ∧ applicationName (mark ++ rest) = rest := by
  have length : mark.toList.length = applicationMark.length :=
    (size_eq_of_sameIgnoringCase marked ascii_applicationMark).1
  unfold isApplication applicationName
  rw [String.toList_append, List.take_left' length, List.drop_left' length, String.ofList_toList,
    String.ofList_toList]
  exact ⟨marked, rfl⟩

/-- The name of an application section is made of the mark in some case and the name of the
instance. -/
theorem exists_mark (marked : isApplication sectionName = true) :
    ∃ mark, sectionName = mark ++ applicationName sectionName ∧
      sameIgnoringCase mark applicationMark = true := by
  refine ⟨_, ?_, marked⟩
  rw [applicationName, ← String.ofList_append, List.take_append_drop, String.ofList_toList]

theorem isApplication_iff_exists_append : isApplication sectionName = true ↔
    ∃ mark rest, sectionName = mark ++ rest ∧ sameIgnoringCase mark applicationMark = true := by
  constructor
  · intro marked
    obtain ⟨mark, parts, same⟩ := exists_mark marked
    exact ⟨mark, _, parts, same⟩
  · rintro ⟨mark, rest, rfl, same⟩
    exact (isApplication_append same).1

/-- A section is an application section if its name can be cut at the byte where the mark would end
and what stands before is the mark in some case. What stands behind is the name of the instance. -/
theorem isApplication_iff_exists_pos : isApplication sectionName = true ↔
    ∃ boundary : sectionName.Pos, boundary.offset.byteIdx = applicationMark.utf8ByteSize ∧
      sameIgnoringCase (sectionName.sliceTo boundary).copy applicationMark = true ∧
      (sectionName.sliceFrom boundary).copy = applicationName sectionName := by
  constructor
  · intro marked
    obtain ⟨mark, parts, same⟩ := exists_mark marked
    have splits := String.Pos.splits_ofEqAppend parts
    refine ⟨_, ?_, splits.copy_sliceTo_eq.symm ▸ same, splits.copy_sliceFrom_eq⟩
    rw [splits.offset_eq_rawEndPos]
    exact (size_eq_of_sameIgnoringCase same ascii_applicationMark).2
  · rintro ⟨boundary, -, same, -⟩
    exact isApplication_iff_exists_append.mpr ⟨_, _, boundary.splits.eq_append, same⟩

end Mark

/-! ### The section of an instance -/

section Order

variable {accessor : Accessor} {index : UInt32} {sectionName : String}

/-- The application section of the instance with an index: it comes after as many others as there
are indices before. -/
def OwnsSection (accessor : Accessor) (index : UInt32) (sectionName : String) : Prop :=
  isApplication sectionName = true ∧ ∃ before after,
    accessor.sections = before ++ sectionName :: after ∧
      before.countP isApplication + 1 = index.toNat

/-- What stands at a place among the chosen items has so many of them before it. -/
theorem getElem?_filter_eq_some_iff {α : Type} {chosen : α → Bool} {items : List α} {place : ℕ}
    {item : α} : (items.filter chosen)[place]? = some item ↔
      chosen item = true ∧ ∃ before after, items = before ++ item :: after ∧
        before.countP chosen = place := by
  constructor
  · intro found
    obtain ⟨short, same⟩ := List.getElem?_eq_some_iff.mp found
    have length := List.length_take_of_le (Nat.le_of_lt short)
    have parts := List.take_append_drop place (items.filter chosen)
    rw [← List.getElem_cons_drop short, same] at parts
    obtain ⟨before, rest, whole, taken, others⟩ := List.filter_eq_append_iff.mp parts.symm
    obtain ⟨skipped, after, split, none, one, -⟩ := List.filter_eq_cons_iff.mp others
    -- Whatever stands between the chosen items before and this one is not chosen.
    refine ⟨one, before ++ skipped, after, ?_, ?_⟩
    · rw [whole, split, List.append_assoc]
    · rw [List.countP_append, List.countP_eq_zero.mpr none, List.countP_eq_length_filter, taken,
        length, Nat.add_zero]
  · rintro ⟨one, before, after, rfl, rfl⟩
    rw [List.filter_append, List.filter_cons_of_pos one, List.countP_eq_length_filter,
      List.getElem?_append_right (Nat.le_refl _), Nat.sub_self]
    rfl

/-- The application section that is found for an index is the one of its instance. -/
theorem applicationSection?_eq_some_iff : applicationSection? accessor index = some sectionName ↔
    OwnsSection accessor index sectionName := by
  unfold applicationSection? OwnsSection applicationSections
  by_cases zero : index = 0
  · subst zero
    simp
  · have positive : index.toNat ≠ 0 := fun none ↦ zero (UInt32.toNat_inj.mp none)
    have place (count : ℕ) : count = index.toNat - 1 ↔ count + 1 = index.toNat := by omega
    rw [if_neg zero, getElem?_filter_eq_some_iff]
    simp only [place]

/-- No application section is found for an index if its instance has none. -/
theorem applicationSection?_eq_none_iff : applicationSection? accessor index = none ↔
    ∀ sectionName, ¬ OwnsSection accessor index sectionName := by
  rw [Option.eq_none_iff_forall_ne_some]
  exact forall_congr' fun _ ↦ not_congr applicationSection?_eq_some_iff

end Order

/-! ### The layout -/

namespace Layout

variable {accessor : Accessor}

theorem effective_ne_auto (layout : Layout) (accessor : Accessor) :
    layout.effective accessor ≠ .auto := by
  cases layout with
  | auto =>
    unfold effective
    dsimp only
    split_ifs <;> decide
  | flat | sections => exact nofun

theorem effective_auto_of_exists
    (marked : ∃ sectionName ∈ accessor.sections, isApplication sectionName = true) :
    auto.effective accessor = .sections := by
  unfold effective applicationSections
  dsimp only
  rw [if_neg]
  simpa using marked

theorem effective_auto_of_forall
    (unmarked : ∀ sectionName ∈ accessor.sections, isApplication sectionName ≠ true) :
    auto.effective accessor = .flat := by
  unfold effective applicationSections
  dsimp only
  rw [if_pos (List.filter_eq_nil_iff.mpr unmarked)]

end Layout

end Heartbeat
