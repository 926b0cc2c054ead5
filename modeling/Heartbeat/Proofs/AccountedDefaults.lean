import Heartbeat.Proofs.ApplicationSections
import Heartbeat.Proofs.LayoutAgreement
import Mathlib.Data.List.TakeWhile

/-!
# Every default is accounted for

When the port of the watchdog is there, an instance is always resolved, and its warnings tell which
of its values are defaults. `Resolved.Accounted` is the whole account: the times are those of the
place in the settings that belongs to the instance (`Placed`), each with a warning exactly if it is
a default (`TimeTaken`), and then the name (`NameTaken`). Where the place would be an application
section that is not there, one warning stands for both times.

`resolve_accounts` is the statement for all settings. There are no warnings exactly if all three
values are taken from the settings, and whatever the settings are, the name is not empty and has no
blanks around it.
-/

set_option autoImplicit false
set_option relaxedAutoImplicit false

namespace Heartbeat

open Heartbeat.Settings Heartbeat.Text

/-! ### Times -/

/-- A time that is taken from the answer for its key, and the warnings with it: the integer itself,
or zero with the one warning that says why. -/
inductive TimeTaken (sectionName key : String) :
    Except ConfigError Int64 → Int64 → List ConfigWarning → Prop
  | found (value : Int64) : TimeTaken sectionName key (.ok value) value []
  | unparsable (otherSection otherKey text : String) :
    TimeTaken sectionName key (.error (.invalidValue otherSection otherKey text)) 0
      [.unparsable sectionName key text 0]
  | defaulted (error : ConfigError)
    (other : ∀ otherSection otherKey text, error ≠ .invalidValue otherSection otherKey text) :
    TimeTaken sectionName key (.error error) 0 [.defaulted sectionName key 0]

theorem timeTaken_optionalInt (accessor : Accessor) (sectionName key : String) :
    TimeTaken sectionName key (accessor.getInt sectionName key)
      (optionalInt accessor sectionName key).1 (optionalInt accessor sectionName key).2 := by
  unfold optionalInt
  cases accessor.getInt sectionName key with
  | ok value => exact .found value
  | error error =>
    cases error with
    | invalidValue otherSection otherKey text => exact .unparsable otherSection otherKey text
    | missingKey otherSection otherKey => exact .defaulted _ nofun
    | load cause => exact .defaulted _ nofun

/-- A time is without a warning exactly if it is the integer that was found. -/
theorem TimeTaken.warnings_eq_nil_iff {sectionName key : String} {answer : Except ConfigError Int64}
    {value : Int64} {warnings : List ConfigWarning}
    (taken : TimeTaken sectionName key answer value warnings) :
    warnings = [] ↔ answer = .ok value := by
  cases taken with
  | found => exact iff_of_true rfl rfl
  | unparsable | defaulted => exact iff_of_false nofun nofun

/-! ### Names -/

/-- A text has a character that is not blank. -/
def Visible (text : String) : Prop :=
  ∃ c ∈ text.toList, isBlank c = false

/-- The name that is made for an instance without one is a word. -/
theorem proper_fallbackName (index : UInt32) :
    fallbackName index ≠ "" ∧ Unpadded (fallbackName index).toList := by
  have chars : (fallbackName index).toList = "Process".toList ++ Nat.toDigits 10 index.toNat := by
    unfold fallbackName
    rw [String.toList_append, Nat.toString_eq_repr, Nat.toList_repr]
  constructor
  · intro empty
    rw [empty] at chars
    exact absurd chars.symm (by simp)
  · rw [chars]
    refine .of_forall fun c member ↦ isBlank_of_isWordChar ?_
    rcases List.mem_append.mp member with letter | digit
    · exact List.all_eq_true.mp (by decide : "Process".toList.all isWordChar = true) c letter
    · unfold isWordChar
      rw [isDigit_of_mem_toDigits digit]
      rfl

/-- A name that is taken from a text, if there is one, and the warnings with it: the text without
the blanks around it, or one made of the index with the warning that it was made. -/
inductive NameTaken (index : UInt32) : Option String → String → List ConfigWarning → Prop
  | given (text : String) (visible : Visible text) :
    NameTaken index (some text) (trimmed text) []
  | synthesized (source : Option String) (blank : ∀ text ∈ source, ¬ Visible text) :
    NameTaken index source ("Process" ++ toString index.toNat)
      [.synthesizedName index ("Process" ++ toString index.toNat)]

theorem trimmed_ne_empty_iff {text : String} : trimmed text ≠ "" ↔ Visible text := by
  have chars : trimmed text = "" ↔ trim text.toList = [] := by
    rw [← String.toList_inj]
    simp [trimmed]
  unfold Visible
  rw [Ne, chars, trim_eq_nil_iff]
  simp

theorem nameTaken_chooseName (index : UInt32) (source : Option String) :
    NameTaken index source (chooseName index source).1 (chooseName index source).2 := by
  unfold chooseName
  dsimp only
  split_ifs with empty
  · refine .synthesized source fun text given visible ↦ trimmed_ne_empty_iff.mpr visible ?_
    rw [← empty, Option.mem_def.mp given]
    rfl
  · cases source with
    | none => exact absurd (by decide) empty
    | some text => exact .given text (trimmed_ne_empty_iff.mp empty)

namespace NameTaken

variable {index : UInt32} {source : Option String} {name : String} {warnings : List ConfigWarning}

/-- A name is without a warning exactly if it was taken from a text. -/
theorem warnings_eq_nil_iff (taken : NameTaken index source name warnings) :
    warnings = [] ↔ ∃ text ∈ source, Visible text ∧ name = trimmed text := by
  cases taken with
  | given text visible => exact iff_of_true rfl ⟨text, rfl, visible, rfl⟩
  | synthesized _ blank =>
    refine iff_of_false nofun ?_
    rintro ⟨text, given, visible, -⟩
    exact blank text given visible

/-- A name has characters, and no blanks around them. -/
theorem proper (taken : NameTaken index source name warnings) :
    name ≠ "" ∧ Unpadded name.toList := by
  cases taken with
  | given text visible =>
    refine ⟨trimmed_ne_empty_iff.mpr visible, ?_⟩
    unfold trimmed
    rw [String.toList_ofList]
    exact unpadded_trim _
  | synthesized => exact proper_fallbackName index

end NameTaken

/-! ### Places -/

/-- Where the values of an instance stand: the keys of its times in a section, and the text for its
name if there is one. -/
structure Place where
  sectionName : String
  delayKey : String
  intervalKey : String
  name : Option String

/-- The place of an instance in a layout: the keys with its index in the watchdog's section, or its
own application section. -/
inductive Placed (accessor : Accessor) (index : UInt32) : Layout → Place → Prop
  | flat : Placed accessor index .flat
    ⟨watchdogSection, indexedKey index delayKey, indexedKey index intervalKey,
      (accessor.getString watchdogSection (indexedKey index nameKey)).toOption⟩
  | sections (sectionName : String) (owns : OwnsSection accessor index sectionName) :
    Placed accessor index .sections
      ⟨sectionName, delayKey, intervalKey, some (applicationName sectionName)⟩

section Account

variable {accessor : Accessor} {index : UInt32} {layout : Layout}

/-- An instance has one place at most. -/
theorem Placed.unique {place other : Place} (first : Placed accessor index layout place)
    (second : Placed accessor index layout other) : place = other := by
  cases first with
  | flat =>
    cases second
    rfl
  | sections sectionName owns =>
    cases second with
    | sections otherName also =>
      have same := (applicationSection?_eq_some_iff.mpr owns).symm.trans
        (applicationSection?_eq_some_iff.mpr also)
      rw [Option.some_inj.mp same]

/-- The values are read in the place of the instance, unless that would be an application section
that is not there. -/
theorem readParameters_cases (settled : layout ≠ .auto) :
    (∃ place, Placed accessor index layout place ∧ readParameters accessor index layout =
        readTimes accessor place.sectionName place.delayKey place.intervalKey place.name) ∨
      layout = .sections ∧ (∀ sectionName, ¬ OwnsSection accessor index sectionName) ∧
        readParameters accessor index layout = ⟨none, 0, 0,
          [.noApplicationSection index (accessor.sections.countP isApplication)]⟩ := by
  cases layout with
  | auto => exact absurd rfl settled
  | flat => exact .inl ⟨_, .flat, rfl⟩
  | sections =>
    unfold readParameters
    dsimp only
    cases owned : applicationSection? accessor index with
    | some sectionName =>
      exact .inl ⟨_, .sections sectionName (applicationSection?_eq_some_iff.mp owned), rfl⟩
    | none =>
      refine .inr ⟨rfl, applicationSection?_eq_none_iff.mp owned, ?_⟩
      rw [List.countP_eq_length_filter]
      rfl

/-! ### The account -/

/-- An instance with its warnings, all of them and in order. -/
inductive Resolved.Accounted (accessor : Accessor) (index : UInt32) : Resolved → Prop
  | placed (layout : Layout) (place : Place) (name : String) (delay interval : Int64)
    (port : UInt16) (delayWarnings intervalWarnings nameWarnings : List ConfigWarning)
    (placed : Placed accessor index layout place)
    (delayTaken : TimeTaken place.sectionName place.delayKey
      (accessor.getInt place.sectionName place.delayKey) delay delayWarnings)
    (intervalTaken : TimeTaken place.sectionName place.intervalKey
      (accessor.getInt place.sectionName place.intervalKey) interval intervalWarnings)
    (nameTaken : NameTaken index place.name name nameWarnings) :
    Resolved.Accounted accessor index ⟨⟨index, name, delay, interval, port⟩, layout,
      delayWarnings ++ intervalWarnings ++ nameWarnings⟩
  | undeclared (port : UInt16) (none : ∀ sectionName, ¬ OwnsSection accessor index sectionName) :
    Resolved.Accounted accessor index
      ⟨⟨index, "Process" ++ toString index.toNat, 0, 0, port⟩, .sections,
        [.noApplicationSection index (accessor.sections.countP isApplication),
          .synthesizedName index ("Process" ++ toString index.toNat)]⟩

/-- Both times and the name are those that stand in the place of the instance. -/
def Resolved.FromSettings (accessor : Accessor) (index : UInt32) (resolved : Resolved) : Prop :=
  ∃ place, Placed accessor index resolved.layout place ∧
    accessor.getInt place.sectionName place.delayKey = .ok resolved.config.delay ∧
    accessor.getInt place.sectionName place.intervalKey = .ok resolved.config.interval ∧
    ∃ text ∈ place.name, Visible text ∧ resolved.config.name = trimmed text

namespace Resolved.Accounted

variable {resolved : Resolved}

theorem proper (accounted : Resolved.Accounted accessor index resolved) :
    resolved.config.name ≠ "" ∧ Unpadded resolved.config.name.toList := by
  cases accounted with
  | placed layout place name delay interval port delayWarnings intervalWarnings nameWarnings placed
      delayTaken intervalTaken nameTaken => exact nameTaken.proper
  | undeclared port none => exact proper_fallbackName index

/-- There is no warning exactly if nothing is a default. -/
theorem warnings_eq_nil_iff (accounted : Resolved.Accounted accessor index resolved) :
    resolved.warnings = [] ↔ Resolved.FromSettings accessor index resolved := by
  cases accounted with
  | placed layout place name delay interval port delayWarnings intervalWarnings nameWarnings placed
      delayTaken intervalTaken nameTaken =>
    show delayWarnings ++ intervalWarnings ++ nameWarnings = [] ↔ _
    rw [List.append_eq_nil_iff, List.append_eq_nil_iff, delayTaken.warnings_eq_nil_iff,
      intervalTaken.warnings_eq_nil_iff, nameTaken.warnings_eq_nil_iff, and_assoc]
    constructor
    · exact fun taken ↦ ⟨place, placed, taken⟩
    · rintro ⟨other, also, taken⟩
      rwa [placed.unique also]
  | undeclared port none =>
    refine iff_of_false nofun ?_
    rintro ⟨place, placed, -⟩
    cases placed with
    | sections sectionName owns => exact none sectionName owns

end Resolved.Accounted

/-- An instance whose port was read is resolved, and accounted for. -/
theorem exists_accounted {port : UInt16} (required : readPort accessor = .ok port)
    (index : UInt32) (layout : Layout) :
    ∃ resolved, resolve accessor index layout = .ok resolved ∧
      resolved.layout = layout.effective accessor ∧ resolved.config.port = port ∧
      Resolved.Accounted accessor index resolved := by
  have settled := layout.effective_ne_auto accessor
  rcases @readParameters_cases accessor index _ settled with
    ⟨place, placed, read⟩ | ⟨sections, none, read⟩
  · refine ⟨_, ?_, ?_, ?_, .placed (layout.effective accessor) place _ _ _ port _ _ _ placed
      (timeTaken_optionalInt accessor place.sectionName place.delayKey)
      (timeTaken_optionalInt accessor place.sectionName place.intervalKey)
      (nameTaken_chooseName index place.name)⟩
    · unfold resolve
      rw [required]
      dsimp only [Except.map]
      rw [read]
      rfl
    · rfl
    · rfl
  · refine ⟨_, ?_, ?_, ?_, .undeclared port none⟩
    · unfold resolve
      rw [required]
      dsimp only [Except.map]
      rw [read, sections]
      rfl
    · exact sections.symm
    · rfl

/-- If the port can be read, an instance is resolved in the effective layout, for every index, and
all its values and warnings are accounted for. Its name is not empty and has no blanks around it,
and there are no warnings exactly if both times and the name come from the settings. -/
theorem resolve_accounts {port : UInt16} (positive : port ≠ 0)
    (found : accessor.getInt watchdogSection portKey = .ok (Int64.ofNat port.toNat))
    (index : UInt32) (layout : Layout) :
    ∃ resolved, resolve accessor index layout = .ok resolved ∧
      resolved.layout = layout.effective accessor ∧ resolved.config.port = port ∧
      Resolved.Accounted accessor index resolved ∧
      resolved.config.name ≠ "" ∧ Unpadded resolved.config.name.toList ∧
      (resolved.warnings = [] ↔ Resolved.FromSettings accessor index resolved) := by
  obtain ⟨resolved, made, effective, same, accounted⟩ :=
    exists_accounted (readPort_eq positive found) index layout
  exact ⟨resolved, made, effective, same, accounted, accounted.proper.1, accounted.proper.2,
    accounted.warnings_eq_nil_iff⟩

end Account

/-- Settings with a text for a delay and an interval that cannot be loaded. -/
def faultySettings : Accessor :=
  .ofList [watchdogSection, "app:one", "APP: two "]
    [⟨watchdogSection, portKey, .ok (12345, "12345")⟩,
      ⟨"APP: two ", delayKey, .error (.invalidValue "APP: two " delayKey "soon")⟩,
      ⟨"APP: two ", intervalKey, .error (.load .notUnicode)⟩]

theorem resolve_accounts_faultySettings :
    (12345 : UInt16) ≠ 0 ∧
      faultySettings.getInt watchdogSection portKey = .ok (Int64.ofNat (12345 : UInt16).toNat) ∧
      ∃ resolved, resolve faultySettings 2 .auto = .ok resolved ∧
        resolved.layout = .sections ∧ resolved.config = ⟨2, "two", 0, 0, 12345⟩ ∧
        resolved.warnings = [.unparsable "APP: two " delayKey "soon" 0,
          .defaulted "APP: two " intervalKey 0] ∧
        ¬ Resolved.FromSettings faultySettings 2 resolved := by
  have positive : (12345 : UInt16) ≠ 0 := by decide
  have found : faultySettings.getInt watchdogSection portKey =
      .ok (Int64.ofNat (12345 : UInt16).toNat) := by decide
  obtain ⟨resolved, made, -, -, -, -, -, settled⟩ := resolve_accounts positive found 2 .auto
  have whole : resolve faultySettings 2 .auto = .ok ⟨⟨2, "two", 0, 0, 12345⟩, .sections,
      [.unparsable "APP: two " delayKey "soon" 0, .defaulted "APP: two " intervalKey 0]⟩ := by
    decide
  obtain rfl := Except.ok.inj (whole.symm.trans made)
  exact ⟨positive, found, _, made, rfl, rfl, rfl, fun all ↦ nomatch settled.mpr all⟩

end Heartbeat
