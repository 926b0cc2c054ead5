import Heartbeat.Proofs.SimpleNames
import Heartbeat.Proofs.StoreContents
import Mathlib.Data.List.Sigma

/-!
# The two layouts agree

A list of instances can be described in the watchdog's section or by a section for each instance.
The texts of both documents load, and each instance is then resolved to what was described, from
either text and without a warning (`layouts_agree`). `Describable` says which lists: simple names
that differ from each other, and no more of them than there are indices.

Both documents are plain and lossless, so the store holds what was written. What remains is how
`resolve` reads it: `readParameters_flat` and `readParameters_sections` for the two layouts, and
`resolve_eq` for what they have in common.
-/

set_option autoImplicit false
set_option relaxedAutoImplicit false

namespace Heartbeat

open Heartbeat.Settings Heartbeat.Text

/-! ### Descriptions -/

/-- A list of instances that can be described: they have simple names that differ, and there is an
index for every one. -/
structure Describable (descriptions : List Description) : Prop where
  names : ∀ description ∈ descriptions, Simple description.name
  nodup : (descriptions.map Description.name).Nodup
  indexed : descriptions.length < UInt32.size

/-- The instance that is described for an index. -/
def Description.config (description : Description) (index : UInt32) (port : UInt16) : Instance :=
  ⟨index, description.name, description.delay, description.interval, port⟩

/-- Settings that come to all the described instances, in one layout and without a warning. The
first index is one. -/
def Describes (accessor : Accessor) (layout : Layout) (port : UInt16)
    (descriptions : List Description) : Prop :=
  ∀ index description, index ≠ 0 → descriptions[index.toNat - 1]? = some description →
    resolve accessor index .auto = .ok ⟨description.config index port, layout, []⟩

theorem portEntry_eq (port : UInt16) :
    portEntry port = integerEntry portKey (Int64.ofNat port.toNat) := by
  have small : port.toNat < 2 ^ 63 := Nat.lt_trans port.toNat_lt (by decide)
  unfold portEntry integerEntry
  rw [Int64.toInt_ofNat_of_lt small]
  rfl

/-- Items with names in lower case are told apart if the names differ. -/
theorem distinct_of_lower {α : Type} {name : α → String} {items : List α}
    (ascii : ∀ item ∈ items, ∀ c ∈ (name item).toList, c.toNat < 128)
    (lower : ∀ item ∈ items, lowercased (name item) = name item)
    (nodup : (items.map name).Nodup) : Distinct name items where
  ascii := ascii
  nodup := by rwa [List.map_congr_left lower]

/-- Entries with simple keys are told apart if the keys differ. -/
theorem distinct_entries {entries : List Ini.Entry} (simple : ∀ entry ∈ entries, Simple entry.key)
    (nodup : (entries.map Ini.Entry.key).Nodup) : Distinct Ini.Entry.key entries :=
  distinct_of_lower (fun entry member ↦ (simple entry member).ascii)
    (fun entry member ↦ (simple entry member).lowercased_eq) nodup

/-! ### What is read from an accessor -/

section Reading

variable {accessor : Accessor} {sectionName : String}

theorem readPort_eq {port : UInt16} (positive : port ≠ 0)
    (found : accessor.getInt watchdogSection portKey = .ok (Int64.ofNat port.toNat)) :
    readPort accessor = .ok port := by
  have most : port.toNat < 2 ^ 16 := port.toNat_lt
  have least : port.toNat ≠ 0 := fun zero ↦ positive (UInt16.toNat_inj.mp zero)
  have value : (Int64.ofNat port.toNat).toInt = port.toNat :=
    Int64.toInt_ofNat_of_lt (Nat.lt_trans most (by decide))
  unfold readPort
  rw [found]
  dsimp only
  rw [value, if_pos ⟨by omega, by omega⟩, Int.toNat_natCast, UInt16.ofNat_toNat]

theorem optionalInt_eq {key : String} {value : Int64}
    (found : accessor.getInt sectionName key = .ok value) :
    optionalInt accessor sectionName key = (value, []) := by
  unfold optionalInt
  rw [found]

theorem readTimes_eq {delayName intervalName : String} {delay interval : Int64}
    (foundDelay : accessor.getInt sectionName delayName = .ok delay)
    (foundInterval : accessor.getInt sectionName intervalName = .ok interval)
    (name : Option String) :
    readTimes accessor sectionName delayName intervalName name = ⟨name, delay, interval, []⟩ := by
  unfold readTimes
  rw [optionalInt_eq foundDelay, optionalInt_eq foundInterval]
  rfl

/-- In the flat layout an instance has what stands under the keys of its index. -/
theorem readParameters_flat {index : UInt32} {description : Description}
    (name : accessor.getString watchdogSection (indexedKey index nameKey) = .ok description.name)
    (delay : accessor.getInt watchdogSection (indexedKey index delayKey) = .ok description.delay)
    (interval : accessor.getInt watchdogSection (indexedKey index intervalKey) =
      .ok description.interval) :
    readParameters accessor index .flat =
      ⟨some description.name, description.delay, description.interval, []⟩ := by
  unfold readParameters
  dsimp only
  rw [name, readTimes_eq delay interval]
  rfl

/-- In the layout of application sections an instance has what stands in its section. -/
theorem readParameters_sections {index : UInt32} {description : Description}
    (own : applicationSection? accessor index = some sectionName)
    (name : applicationName sectionName = description.name)
    (delay : accessor.getInt sectionName delayKey = .ok description.delay)
    (interval : accessor.getInt sectionName intervalKey = .ok description.interval) :
    readParameters accessor index .sections =
      ⟨some description.name, description.delay, description.interval, []⟩ := by
  unfold readParameters
  dsimp only
  rw [own]
  dsimp only
  rw [name, readTimes_eq delay interval]

/-- A simple name is chosen as it stands. -/
theorem chooseName_eq {name : String} (simple : Simple name) (index : UInt32) :
    chooseName index (some name) = (name, []) := by
  unfold chooseName trimmed
  rw [Option.getD_some, trim_of_unpadded simple.unpadded, String.ofList_toList,
    if_neg simple.nonempty]

/-- An instance is resolved once its port and its parameters are read. -/
theorem resolve_eq {port : UInt16} {index : UInt32} {layout : Layout} {description : Description}
    (simple : Simple description.name) (required : readPort accessor = .ok port)
    (parameters : readParameters accessor index (layout.effective accessor) =
      ⟨some description.name, description.delay, description.interval, []⟩) :
    resolve accessor index layout =
      .ok ⟨description.config index port, layout.effective accessor, []⟩ := by
  unfold resolve
  rw [required]
  dsimp only [Except.map]
  rw [parameters, chooseName_eq simple]
  rfl

end Reading

/-! ### The watchdog's section -/

theorem word_watchdogSection : ∀ c ∈ watchdogSection.toList, isWordChar c = true :=
  List.all_eq_true.mp (by decide)

theorem ascii_watchdogSection : ∀ c ∈ watchdogSection.toList, c.toNat < 128 :=
  fun c member ↦ ascii_of_isWordChar (word_watchdogSection c member)

theorem plain_watchdogSection : Ini.Plain .closingBracket watchdogSection.toList :=
  plain_of_word .name word_watchdogSection

theorem lowercased_watchdogSection : lowercased watchdogSection = "processwatchdog" := by decide

theorem ofName_watchdogSection :
    AccessPath.ofName watchdogSection = ⟨lowercased watchdogSection, []⟩ :=
  AccessPath.ofName_of_identifier (by decide) (List.all_eq_true.mp (by decide))

/-! ### The flat document -/

/-- The watchdog's section of the flat document. -/
def flatSection (port : UInt16) (descriptions : List Description) : Ini.Section where
  name := watchdogSection
  entries := portEntry port :: descriptions.zipIdx.flatMap fun numbered ↦
    numbered.1.flatEntries (UInt32.ofNat (numbered.2 + 1))

namespace Description

variable {description : Description} {index : UInt32}

theorem keys_flatEntries (description : Description) (index : UInt32) :
    (description.flatEntries index).map Ini.Entry.key =
      [nameKey, delayKey, intervalKey].map (indexedKey index) := rfl

theorem exists_key_of_mem_flatEntries {entry : Ini.Entry}
    (own : entry ∈ description.flatEntries index) :
    ∃ key ∈ [nameKey, delayKey, intervalKey], indexedKey index key = entry.key := by
  have member := @List.mem_map_of_mem _ _ _ _ Ini.Entry.key own
  rw [keys_flatEntries] at member
  exact List.mem_map.mp member

theorem simple_flatEntries {entry : Ini.Entry} (own : entry ∈ description.flatEntries index) :
    Simple entry.key := by
  have simple : ∀ key ∈ [nameKey, delayKey, intervalKey], Simple key := by
    simp [simple_nameKey, simple_delayKey, simple_intervalKey]
  obtain ⟨key, member, same⟩ := exists_key_of_mem_flatEntries own
  rw [← same]
  exact simple_indexedKey index (simple key member)

theorem plain_flatEntries (simple : Simple description.name) {entry : Ini.Entry}
    (own : entry ∈ description.flatEntries index) : entry.Plain := by
  have key := simple_flatEntries own
  simp only [flatEntries, List.mem_cons, List.not_mem_nil, or_false] at own
  rcases own with rfl | rfl | rfl
  · exact plain_entry key simple.word
  · exact plain_integerEntry key description.delay
  · exact plain_integerEntry key description.interval

/-- An instance has each of its keys once. -/
theorem nodup_flatEntries (description : Description) (index : UInt32) :
    ((description.flatEntries index).map Ini.Entry.key).Nodup := by
  have injective : Function.Injective (indexedKey index) := fun _ _ same ↦ (indexedKey_inj same).2
  rw [keys_flatEntries]
  exact List.Nodup.map injective (by decide)

/-- Two instances have no key in common. -/
theorem disjoint_flatEntries {other : Description} {place : UInt32} (different : index ≠ place) :
    List.Disjoint ((description.flatEntries index).map Ini.Entry.key)
      ((other.flatEntries place).map Ini.Entry.key) := by
  intro key left right
  rw [keys_flatEntries] at left right
  obtain ⟨about, -, first⟩ := List.mem_map.mp left
  obtain ⟨further, -, second⟩ := List.mem_map.mp right
  exact different (indexedKey_inj (first.trans second.symm)).1

end Description

section Flat

variable {port : UInt16} {descriptions : List Description}

/-- An entry of the flat section is the port's or belongs to an instance. -/
theorem mem_flatSection {entry : Ini.Entry}
    (listed : entry ∈ (flatSection port descriptions).entries) :
    entry = integerEntry portKey (Int64.ofNat port.toNat) ∨
      ∃ description ∈ descriptions, ∃ index, entry ∈ description.flatEntries index := by
  rcases List.mem_cons.mp listed with rfl | inside
  · exact .inl (portEntry_eq port)
  · obtain ⟨numbered, member, own⟩ := List.mem_flatMap.mp inside
    exact .inr ⟨numbered.1, List.fst_mem_of_mem_zipIdx member, _, own⟩

/-- The entries of an instance are in the flat section. -/
theorem mem_flatSection_of_mem {index : UInt32} (positive : index ≠ 0) {description : Description}
    (described : descriptions[index.toNat - 1]? = some description) {entry : Ini.Entry}
    (own : entry ∈ description.flatEntries index) :
    entry ∈ (flatSection port descriptions).entries := by
  have nonzero : index.toNat ≠ 0 := fun zero ↦ positive (UInt32.toNat_inj.mp zero)
  refine List.mem_cons_of_mem _ (List.mem_flatMap.mpr ⟨(description, index.toNat - 1),
    List.mk_mem_zipIdx_iff_getElem?.mpr described, ?_⟩)
  dsimp only
  rwa [Nat.sub_add_cancel (Nat.pos_of_ne_zero nonzero), UInt32.ofNat_toNat]

theorem holds_flatDocument {entry : Ini.Entry}
    (listed : entry ∈ (flatSection port descriptions).entries) :
    (flatDocument port descriptions).Holds watchdogSection entry :=
  ⟨_, List.mem_singleton_self _, rfl, listed⟩

theorem simple_flatSection {entry : Ini.Entry}
    (listed : entry ∈ (flatSection port descriptions).entries) : Simple entry.key := by
  rcases mem_flatSection listed with rfl | ⟨description, -, index, own⟩
  · exact simple_portKey
  · exact Description.simple_flatEntries own

/-- Every key is once in the flat section, because the indices do not repeat. -/
theorem nodup_flatSection (indexed : descriptions.length < UInt32.size) :
    ((flatSection port descriptions).entries.map Ini.Entry.key).Nodup := by
  have apart : descriptions.zipIdx.Pairwise fun first second ↦
      UInt32.ofNat (first.2 + 1) ≠ UInt32.ofNat (second.2 + 1) := by
    have places := List.pairwise_map.mp descriptions.nodup_zipIdx_map_snd
    refine places.imp_of_mem ?_
    intro first second left right different same
    have least := List.snd_lt_of_mem_zipIdx left
    have most := List.snd_lt_of_mem_zipIdx right
    have equal := congrArg UInt32.toNat same
    rw [UInt32.toNat_ofNat_of_lt' (by omega), UInt32.toNat_ofNat_of_lt' (by omega)] at equal
    exact different (by omega)
  unfold flatSection
  rw [List.map_cons, List.map_flatMap, List.nodup_cons]
  constructor
  · intro listed
    obtain ⟨numbered, -, own⟩ := List.mem_flatMap.mp listed
    rw [Description.keys_flatEntries] at own
    obtain ⟨about, -, same⟩ := List.mem_map.mp own
    exact indexedKey_ne_portKey _ about same
  · refine List.nodup_flatMap.mpr ⟨fun numbered _ ↦ numbered.1.nodup_flatEntries _, ?_⟩
    exact apart.imp fun different ↦ Description.disjoint_flatEntries different

theorem plain_flatDocument (describable : Describable descriptions) :
    (flatDocument port descriptions).Plain where
  general := List.forall_mem_nil _
  sections := by
    refine List.forall_mem_singleton.mpr ⟨plain_watchdogSection, fun entry listed ↦ ?_⟩
    rcases mem_flatSection listed with rfl | ⟨description, member, index, own⟩
    · exact plain_integerEntry simple_portKey _
    · exact Description.plain_flatEntries (describable.names description member) own

theorem lossless_flatDocument (describable : Describable descriptions) :
    Lossless (flatDocument port descriptions) where
  general := rfl
  sections := ⟨List.forall_mem_singleton.mpr ascii_watchdogSection, List.nodup_singleton _⟩
  paths := List.forall_mem_singleton.mpr ofName_watchdogSection
  entries := List.forall_mem_singleton.mpr
    (distinct_entries (fun _ listed ↦ simple_flatSection listed)
      (nodup_flatSection describable.indexed))

theorem effective_flatDocument (port : UInt16) (descriptions : List Description) :
    Layout.auto.effective (Store.ofSections (flatDocument port descriptions)).accessor = .flat := by
  have none : applicationSections (Store.ofSections (flatDocument port descriptions)).accessor =
      [] := by
    show [lowercased watchdogSection].filter isApplication = []
    rw [lowercased_watchdogSection]
    decide
  unfold Layout.effective
  dsimp only
  rw [if_pos none]

/-- The flat document comes to the described instances. -/
theorem describes_flatDocument (positive : port ≠ 0) (describable : Describable descriptions) :
    Describes (Store.ofSections (flatDocument port descriptions)).accessor .flat port
      descriptions := by
  intro index description first described
  have lossless := @lossless_flatDocument port descriptions describable
  have holds : ∀ entry ∈ description.flatEntries index,
      (flatDocument port descriptions).Holds watchdogSection entry :=
    fun entry own ↦ holds_flatDocument (mem_flatSection_of_mem first described own)
  have required : readPort (Store.ofSections (flatDocument port descriptions)).accessor =
      .ok port := by
    refine readPort_eq positive (Store.getInt_of_holds lossless ?_)
    exact holds_flatDocument (List.mem_cons.mpr (.inl (portEntry_eq port).symm))
  have name := Store.getString_of_holds lossless
    (holds ⟨indexedKey index nameKey, description.name⟩ List.mem_cons_self)
  have delay := Store.getInt_of_holds lossless
    (holds (integerEntry (indexedKey index delayKey) description.delay)
      (List.mem_cons_of_mem _ List.mem_cons_self))
  have interval := Store.getInt_of_holds lossless
    (holds (integerEntry (indexedKey index intervalKey) description.interval)
      (List.mem_cons_of_mem _ (List.mem_cons_of_mem _ List.mem_cons_self)))
  have parameters := readParameters_flat name delay interval
  rw [← effective_flatDocument port descriptions] at parameters ⊢
  exact resolve_eq (describable.names description (List.mem_of_getElem? described)) required
    parameters

end Flat

/-! ### The document of application sections -/

namespace Description

variable {description : Description}

theorem toList_name_ownSection (description : Description) :
    description.ownSection.name.toList = ['a', 'p', 'p', ':'] ++ description.name.toList :=
  String.toList_append

/-- What holds of the characters of the mark and of a name holds of those of the section. -/
theorem forall_mem_name_ownSection {holds : Char → Prop}
    (mark : holds 'a' ∧ holds 'p' ∧ holds ':') (name : ∀ c ∈ description.name.toList, holds c) :
    ∀ c ∈ description.ownSection.name.toList, holds c := by
  have marked : ∀ c ∈ ['a', 'p', 'p', ':'], holds c := by simpa using mark
  rw [toList_name_ownSection]
  exact List.forall_mem_append.mpr ⟨marked, name⟩

theorem ascii_ownSection (simple : Simple description.name) :
    ∀ c ∈ description.ownSection.name.toList, c.toNat < 128 :=
  forall_mem_name_ownSection (by decide) simple.ascii

theorem lowercased_ownSection (simple : Simple description.name) :
    lowercased description.ownSection.name = description.ownSection.name :=
  lowercased_of_lower (ascii_ownSection simple)
    (forall_mem_name_ownSection (by decide) simple.lower)

theorem ofName_ownSection (description : Description) :
    AccessPath.ofName description.ownSection.name =
      ⟨lowercased description.ownSection.name, []⟩ :=
  @AccessPath.ofName_of_mark _ ['a', 'p', 'p'] _ ':' description.toList_name_ownSection
    (List.all_eq_true.mp (by decide)) (by decide) (by decide)

theorem simple_ownSection {entry : Ini.Entry} (own : entry ∈ description.ownSection.entries) :
    Simple entry.key := by
  simp only [ownSection, List.mem_cons, List.not_mem_nil, or_false] at own
  rcases own with rfl | rfl
  · exact simple_delayKey
  · exact simple_intervalKey

theorem plain_ownSection (simple : Simple description.name) : description.ownSection.Plain where
  name := ⟨.of_forall (forall_mem_name_ownSection (by decide)
      fun c member ↦ isBlank_of_isWordChar (simple.word c member)),
    forall_mem_name_ownSection (by decide)
      fun c member ↦ unmarked_of_isWordChar .name (simple.word c member)⟩
  entries entry own := by
    have key := simple_ownSection own
    simp only [ownSection, List.mem_cons, List.not_mem_nil, or_false] at own
    rcases own with rfl | rfl
    · exact plain_integerEntry key description.delay
    · exact plain_integerEntry key description.interval

/-- The section of an instance is an application section, and it tells the name. -/
theorem isApplication_ownSection (description : Description) :
    isApplication description.ownSection.name = true := by
  unfold isApplication
  rw [toList_name_ownSection, List.take_left' (by decide)]
  decide

theorem applicationName_ownSection (description : Description) :
    applicationName description.ownSection.name = description.name := by
  unfold applicationName
  rw [toList_name_ownSection]
  exact String.ofList_toList

end Description

section Sections

variable {port : UInt16} {descriptions : List Description}

theorem plain_sectionsDocument (describable : Describable descriptions) :
    (sectionsDocument port descriptions).Plain where
  general := List.forall_mem_nil _
  sections := by
    refine List.forall_mem_cons.mpr ⟨⟨plain_watchdogSection, ?_⟩, ?_⟩
    · refine List.forall_mem_singleton.mpr ?_
      rw [portEntry_eq]
      exact plain_integerEntry simple_portKey _
    · refine List.forall_mem_map.mpr fun description member ↦ ?_
      exact Description.plain_ownSection (describable.names description member)

/-- The names of the sections in lower case: the watchdog's and those of the instances. -/
theorem map_lowercased_sectionsDocument (describable : Describable descriptions) :
    (sectionsDocument port descriptions).sections.map (fun opened ↦ lowercased opened.name) =
      "processwatchdog" :: descriptions.map fun description ↦ description.ownSection.name := by
  unfold sectionsDocument
  rw [List.map_cons, List.map_map, lowercased_watchdogSection]
  refine congrArg _ (List.map_congr_left fun description member ↦ ?_)
  exact Description.lowercased_ownSection (describable.names description member)

theorem nodup_sectionsDocument (describable : Describable descriptions) :
    ((sectionsDocument port descriptions).sections.map
      fun opened ↦ lowercased opened.name).Nodup := by
  rw [map_lowercased_sectionsDocument describable, List.nodup_cons]
  constructor
  · intro listed
    obtain ⟨description, -, same⟩ := List.mem_map.mp listed
    have chars := description.toList_name_ownSection
    rw [same, List.cons_append] at chars
    exact absurd (List.cons.inj chars).1 (by decide)
  · have marked : Function.Injective (applicationMark ++ ·) :=
      fun _ _ same ↦ (String.append_right_inj applicationMark).mp same
    have names := describable.nodup.map marked
    rwa [List.map_map] at names

theorem lossless_sectionsDocument (describable : Describable descriptions) :
    Lossless (sectionsDocument port descriptions) where
  general := rfl
  sections := by
    refine ⟨List.forall_mem_cons.mpr ⟨ascii_watchdogSection, ?_⟩,
      nodup_sectionsDocument describable⟩
    refine List.forall_mem_map.mpr fun description member ↦ ?_
    exact Description.ascii_ownSection (describable.names description member)
  paths := List.forall_mem_cons.mpr ⟨ofName_watchdogSection,
    List.forall_mem_map.mpr fun description _ ↦ description.ofName_ownSection⟩
  entries := by
    refine List.forall_mem_cons.mpr ⟨?_, List.forall_mem_map.mpr fun description _ ↦ ?_⟩
    · exact distinct_entries (List.forall_mem_singleton.mpr simple_portKey) (List.nodup_singleton _)
    · refine distinct_entries (fun entry own ↦ Description.simple_ownSection own) ?_
      show [delayKey, intervalKey].Nodup
      decide

/-- The application sections are those of the instances. -/
theorem applicationSections_sectionsDocument (describable : Describable descriptions) :
    applicationSections (Store.ofSections (sectionsDocument port descriptions)).accessor =
      descriptions.map fun description ↦ description.ownSection.name := by
  have names : (Store.ofSections (sectionsDocument port descriptions)).accessor.sections =
      "processwatchdog" :: descriptions.map fun description ↦ description.ownSection.name := by
    rw [← @map_lowercased_sectionsDocument port _ describable]
    exact List.map_map
  unfold applicationSections
  rw [names, List.filter_cons_of_neg (by decide), List.filter_eq_self]
  exact List.forall_mem_map.mpr fun description _ ↦ description.isApplication_ownSection

/-- The document of application sections comes to the described instances. -/
theorem describes_sectionsDocument (positive : port ≠ 0) (describable : Describable descriptions) :
    Describes (Store.ofSections (sectionsDocument port descriptions)).accessor .sections port
      descriptions := by
  intro index description first described
  have lossless := @lossless_sectionsDocument port descriptions describable
  have known := List.mem_of_getElem? described
  have holds : ∀ entry ∈ description.ownSection.entries,
      (sectionsDocument port descriptions).Holds description.ownSection.name entry :=
    fun entry own ↦ ⟨_, List.mem_cons_of_mem _ (List.mem_map_of_mem known), rfl, own⟩
  have required : readPort (Store.ofSections (sectionsDocument port descriptions)).accessor =
      .ok port := by
    refine readPort_eq positive (Store.getInt_of_holds lossless ?_)
    exact ⟨_, List.mem_cons_self, rfl, List.mem_singleton.mpr (portEntry_eq port).symm⟩
  have delay := Store.getInt_of_holds lossless
    (holds (integerEntry delayKey description.delay) List.mem_cons_self)
  have interval := Store.getInt_of_holds lossless
    (holds (integerEntry intervalKey description.interval)
      (List.mem_cons_of_mem _ List.mem_cons_self))
  have sections := @applicationSections_sectionsDocument port descriptions describable
  have own : applicationSection? (Store.ofSections (sectionsDocument port descriptions)).accessor
      index = some description.ownSection.name := by
    unfold applicationSection?
    rw [if_neg first, sections, List.getElem?_map, described, Option.map_some]
  have effective : Layout.auto.effective
      (Store.ofSections (sectionsDocument port descriptions)).accessor = .sections := by
    unfold Layout.effective
    dsimp only
    rw [sections, if_neg (fun none ↦ List.ne_nil_of_mem known (List.map_eq_nil_iff.mp none))]
  have parameters := readParameters_sections own description.applicationName_ownSection delay
    interval
  rw [← effective] at parameters ⊢
  exact resolve_eq (describable.names description known) required parameters

end Sections

/-! ### Agreement -/

/-- The texts of the two documents of a list of instances load, and either one comes to all the
instances as they were described. -/
theorem layouts_agree {port : UInt16} (positive : port ≠ 0) {descriptions : List Description}
    (describable : Describable descriptions) :
    ∃ flat sections,
      Store.load (flatDocument port descriptions).text = .ok ⟨[.found 1], .ok flat⟩ ∧
      Store.load (sectionsDocument port descriptions).text =
        .ok ⟨[.found (descriptions.length + 1)], .ok sections⟩ ∧
      Describes flat.accessor .flat port descriptions ∧
      Describes sections.accessor .sections port descriptions := by
  have flat := Store.load_text (@plain_flatDocument port _ describable)
    (lossless_flatDocument describable)
  have sections := Store.load_text (@plain_sectionsDocument port _ describable)
    (lossless_sectionsDocument describable)
  have count : (sectionsDocument port descriptions).sections.length =
      descriptions.length + 1 := by
    unfold sectionsDocument
    rw [List.length_cons, List.length_map]
  rw [count] at sections
  exact ⟨_, _, flat, sections, describes_flatDocument positive describable,
    describes_sectionsDocument positive describable⟩

/-- Two instances, the first with the least delay and the greatest interval. -/
def extremeDescriptions : List Description :=
  [⟨"worker_1", Int64.minValue, Int64.maxValue⟩, ⟨"0", 5, 60⟩]

theorem layouts_agree_extremes :
    (65535 : UInt16) ≠ 0 ∧ Describable extremeDescriptions ∧
    ∃ flat sections,
      Store.load (flatDocument 65535 extremeDescriptions).text = .ok ⟨[.found 1], .ok flat⟩ ∧
      Store.load (sectionsDocument 65535 extremeDescriptions).text =
        .ok ⟨[.found 3], .ok sections⟩ ∧
      resolve flat.accessor 1 .auto =
        .ok ⟨⟨1, "worker_1", Int64.minValue, Int64.maxValue, 65535⟩, .flat, []⟩ ∧
      resolve sections.accessor 2 .auto = .ok ⟨⟨2, "0", 5, 60, 65535⟩, .sections, []⟩ := by
  have positive : (65535 : UInt16) ≠ 0 := by decide
  have describable : Describable extremeDescriptions := by
    refine ⟨List.forall_mem_cons.mpr ⟨.of_all (by decide) (by decide), ?_⟩, by decide, by decide⟩
    exact List.forall_mem_singleton.mpr (.of_all (by decide) (by decide))
  obtain ⟨flat, sections, first, second, left, right⟩ := layouts_agree positive describable
  exact ⟨positive, describable, flat, sections, first, second,
    left 1 _ (by decide) rfl, right 2 _ (by decide) rfl⟩

end Heartbeat
