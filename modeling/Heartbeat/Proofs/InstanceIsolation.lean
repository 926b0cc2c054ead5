import Heartbeat.Proofs.ApplicationSections
import Heartbeat.Proofs.SimpleNames
import Heartbeat.Settings.Store
import Mathlib.Logic.Relation

/-!
# Instances do not share settings

What an instance is resolved to depends on the names of the sections, on the port of the watchdog
and on two or three answers of its own (`SameAnswers`): those under the keys with its index in the
flat layout, and those of its application section in the other. Settings that agree there resolve it
alike (`resolve_eq_of_sameAnswers`).

A store whose entries about another instance are added, removed or replaced (`Store.Edited`) agrees
there. The keys of two instances differ even up to ASCII case, because a key begins with all the
digits of its index, and the keys that are read without an index begin with a letter. So no number
of such edits makes a difference to an instance (`instances_isolated`).
-/

set_option autoImplicit false
set_option relaxedAutoImplicit false

namespace Heartbeat

open Heartbeat.Settings Heartbeat.Text

/-! ### What an instance is read from -/

/-- Two accessors give the same answers for the times under two keys of a section. -/
structure SameTimes (accessor other : Accessor) (sectionName delayName intervalName : String) :
    Prop where
  delay : other.getInt sectionName delayName = accessor.getInt sectionName delayName
  interval : other.getInt sectionName intervalName = accessor.getInt sectionName intervalName

/-- Two accessors give the same answers where an instance is read in a layout that is not `auto`:
under the three keys with its index, or under the two keys of its application section, if it has
one. -/
def SameAnswers (accessor other : Accessor) (index : UInt32) : Layout → Prop
  | .sections => ∀ sectionName, OwnsSection accessor index sectionName →
    SameTimes accessor other sectionName delayKey intervalKey
  | _ => other.getString watchdogSection (indexedKey index nameKey) =
      accessor.getString watchdogSection (indexedKey index nameKey) ∧
    SameTimes accessor other watchdogSection (indexedKey index delayKey)
      (indexedKey index intervalKey)

section Answers

variable {accessor other : Accessor} {index : UInt32} {layout : Layout}

theorem applicationSections_congr (sections : other.sections = accessor.sections) :
    applicationSections other = applicationSections accessor := by
  unfold applicationSections
  rw [sections]

theorem readTimes_congr {sectionName delayName intervalName : String}
    (times : SameTimes accessor other sectionName delayName intervalName) (name : Option String) :
    readTimes other sectionName delayName intervalName name =
      readTimes accessor sectionName delayName intervalName name := by
  unfold readTimes optionalInt
  rw [times.delay, times.interval]

theorem readParameters_congr (sections : other.sections = accessor.sections)
    (answers : SameAnswers accessor other index layout) :
    readParameters other index layout = readParameters accessor index layout := by
  have marked := applicationSections_congr sections
  have own : applicationSection? other index = applicationSection? accessor index := by
    unfold applicationSection?
    rw [marked]
  unfold readParameters
  cases layout with
  | sections =>
    dsimp only
    rw [own, marked]
    cases owned : applicationSection? accessor index with
    | none => rfl
    | some sectionName =>
      exact readTimes_congr (answers sectionName (applicationSection?_eq_some_iff.mp owned)) _
  | flat | auto =>
    dsimp only
    rw [answers.1]
    exact readTimes_congr answers.2 _

/-- An instance is resolved alike, error or not, if the sections are the same, the port is, and what
is read for the instance in the layout that they come to. -/
theorem resolve_eq_of_sameAnswers (sections : other.sections = accessor.sections)
    (port : other.getInt watchdogSection portKey = accessor.getInt watchdogSection portKey)
    (answers : SameAnswers accessor other index (layout.effective accessor)) :
    resolve other index layout = resolve accessor index layout := by
  have required : readPort other = readPort accessor := by
    unfold readPort
    rw [port]
  have effective : layout.effective other = layout.effective accessor := by
    unfold Layout.effective
    rw [applicationSections_congr sections]
  have parameters := readParameters_congr sections answers
  unfold resolve
  dsimp only
  rw [required, effective, parameters]

end Answers

/-! ### Keys of other instances -/

/-- A key is about the instance with an index, in any ASCII case. -/
def IsKeyOf (index : UInt32) (key : String) : Prop :=
  ∃ about ∈ [nameKey, delayKey, intervalKey], sameIgnoringCase key (indexedKey index about) = true

/-- Simple names are the same up to case only if they are the same. -/
theorem Simple.eq_of_sameIgnoringCase {left right : String} (first : Simple left)
    (second : Simple right) (same : sameIgnoringCase left right = true) : left = right := by
  have mapped := sameIgnoringCase_iff.mp same
  rw [map_asciiLower_of_lower first.lower, map_asciiLower_of_lower second.lower] at mapped
  exact String.toList_inj.mp mapped

theorem simple_of_mem_keys {about : String} (member : about ∈ [nameKey, delayKey, intervalKey]) :
    Simple about := by
  simp only [List.mem_cons, List.not_mem_nil, or_false] at member
  rcases member with rfl | rfl | rfl
  · exact simple_nameKey
  · exact simple_delayKey
  · exact simple_intervalKey

namespace IsKeyOf

variable {index other : UInt32} {key : String}

/-- The keys of an instance are not about another one. -/
theorem not_indexedKey (different : other ≠ index) {about : String} (simple : Simple about) :
    ¬ IsKeyOf other (indexedKey index about) := by
  rintro ⟨further, member, same⟩
  have equal := (simple_indexedKey index simple).eq_of_sameIgnoringCase
    (simple_indexedKey other (simple_of_mem_keys member)) same
  exact different (indexedKey_inj equal).1.symm

/-- A simple name that does not begin with a digit is not about any instance. -/
theorem not_of_head? (simple : Simple key) (head : key.toList.head?.any isDigit = false) :
    ¬ IsKeyOf other key := by
  rintro ⟨about, member, same⟩
  have equal := simple.eq_of_sameIgnoringCase
    (simple_indexedKey other (simple_of_mem_keys member)) same
  have digits := takeWhile_indexedKey other about
  rw [← equal] at digits
  cases chars : key.toList with
  | nil => exact simple.nonempty (String.toList_eq_nil_iff.mp chars)
  | cons c rest =>
    rw [chars] at head
    have other : isDigit c = false := head
    rw [chars, List.takeWhile_cons_of_neg (by simp [other])] at digits
    exact Nat.toDigits_ne_nil digits.symm

/-- A key that is the same up to case is about the same instance. -/
theorem congr {otherKey : String} (same : sameIgnoringCase key otherKey = true)
    (about : IsKeyOf index key) : IsKeyOf index otherKey := by
  obtain ⟨further, member, alike⟩ := about
  refine ⟨further, member, sameIgnoringCase_iff.mpr ?_⟩
  rw [← sameIgnoringCase_iff.mp same]
  exact sameIgnoringCase_iff.mp alike

end IsKeyOf

/-! ### Edits of a store -/

namespace Settings.Store

/-- One entry about the instance with an index is added to a section, removed from it, or replaced
by another one. -/
inductive Edited (index : UInt32) : Store → Store → Prop
  | entry (before after : List StoredSection) (name : String) (front back : List (String × String))
    (old new : Option (String × String)) (removed : ∀ entry ∈ old, IsKeyOf index entry.1)
    (added : ∀ entry ∈ new, IsKeyOf index entry.1) :
    Edited index ⟨before ++ ⟨name, front ++ (old.toList ++ back)⟩ :: after⟩
      ⟨before ++ ⟨name, front ++ (new.toList ++ back)⟩ :: after⟩

/-- An entry about some other instance than that with an index is added, removed or replaced. -/
def EditedBeside (index : UInt32) (store later : Store) : Prop :=
  ∃ other, other ≠ index ∧ Edited other store later

variable {store later : Store} {index : UInt32}

/-- An entry about an instance is not met by a lookup for a key that is not about it. -/
theorem find?_skips {key : String} (elsewhere : ¬ IsKeyOf index key)
    (front back : List (String × String)) {extra : Option (String × String)}
    (about : ∀ entry ∈ extra, IsKeyOf index entry.1) :
    (front ++ (extra.toList ++ back)).find? (fun entry ↦ sameIgnoringCase entry.1 key) =
      (front ++ back).find? fun entry ↦ sameIgnoringCase entry.1 key := by
  cases extra with
  | none => rfl
  | some entry =>
    have other : sameIgnoringCase entry.1 key ≠ true := fun same ↦
      elsewhere ((about entry rfl).congr same)
    rw [Option.toList_some, List.singleton_append, List.find?_append, List.find?_append,
      List.find?_cons_of_neg (by exact other)]

/-- What stands under a key that is not about the instance of an edit stays. -/
theorem Edited.find?_eq (edited : Edited index store later) {key : String}
    (elsewhere : ¬ IsKeyOf index key) (sectionName : String) :
    later.find? sectionName key = store.find? sectionName key := by
  cases edited with
  | entry before after name front back old new removed added =>
    unfold find?
    dsimp only
    rw [List.find?_append, List.find?_append]
    -- If a section before the edited one has the name, that one is found in both stores.
    cases before.find? fun stored ↦ sameIgnoringCase stored.name sectionName with
    | some stored => rfl
    | none =>
      by_cases here : sameIgnoringCase name sectionName = true
      · simp only [List.find?_cons, here, Option.none_or, Option.bind_some]
        rw [find?_skips elsewhere front back removed, find?_skips elsewhere front back added]
      · simp only [List.find?_cons, here]

theorem Edited.sections_eq (edited : Edited index store later) :
    later.accessor.sections = store.accessor.sections := by
  cases edited with
  | entry before after name front back old new removed added =>
    unfold accessor
    simp only [List.map_append, List.map_cons]

/-- The answers for a key that is not about the instance of an edit stay. -/
theorem Edited.answers_eq (edited : Edited index store later) {key : String}
    (elsewhere : ¬ IsKeyOf index key) (sectionName : String) :
    later.accessor.getInt sectionName key = store.accessor.getInt sectionName key ∧
      later.accessor.getString sectionName key = store.accessor.getString sectionName key := by
  unfold accessor getInt getString
  dsimp only
  rw [edited.find?_eq elsewhere]
  exact ⟨rfl, rfl⟩

/-- An edit beside an instance leaves all that it is read from. -/
theorem EditedBeside.resolve_eq (edited : EditedBeside index store later) (layout : Layout) :
    resolve later.accessor index layout = resolve store.accessor index layout := by
  obtain ⟨other, different, edit⟩ := edited
  have own : ∀ about, Simple about → ¬ IsKeyOf other (indexedKey index about) :=
    fun _ ↦ IsKeyOf.not_indexedKey different
  -- The keys that all instances share begin with a letter, those of one instance with its index.
  have port : ¬ IsKeyOf other portKey := IsKeyOf.not_of_head? simple_portKey (by decide)
  have delay : ¬ IsKeyOf other delayKey := IsKeyOf.not_of_head? simple_delayKey (by decide)
  have interval : ¬ IsKeyOf other intervalKey := IsKeyOf.not_of_head? simple_intervalKey (by decide)
  refine resolve_eq_of_sameAnswers edit.sections_eq (edit.answers_eq port _).1 ?_
  unfold SameAnswers
  split
  · exact fun sectionName _ ↦
      ⟨(edit.answers_eq delay sectionName).1, (edit.answers_eq interval sectionName).1⟩
  · exact ⟨(edit.answers_eq (own nameKey simple_nameKey) _).2,
      (edit.answers_eq (own delayKey simple_delayKey) _).1,
      (edit.answers_eq (own intervalKey simple_intervalKey) _).1⟩

end Settings.Store

/-! ### Isolation -/

/-- Settings with the same sections, the same port and the same answers where an instance is read
resolve it alike. In a store, entries about other instances can be added, removed and replaced any
number of times, in any section and any ASCII case, and the instance stays as it was. -/
theorem instances_isolated (index : UInt32) (layout : Layout) :
    (∀ accessor other : Accessor, other.sections = accessor.sections →
      other.getInt watchdogSection portKey = accessor.getInt watchdogSection portKey →
      SameAnswers accessor other index (layout.effective accessor) →
      resolve other index layout = resolve accessor index layout) ∧
    ∀ store later : Store, Relation.ReflTransGen (Store.EditedBeside index) store later →
      resolve later.accessor index layout = resolve store.accessor index layout := by
  refine ⟨fun accessor other ↦ resolve_eq_of_sameAnswers, fun store later edits ↦ ?_⟩
  induction edits with
  | refl => rfl
  | tail _ edit before => exact (edit.resolve_eq layout).trans before

/-- Settings with two application sections, of which the second has some answer for its delay. -/
def pairedSettings (answer : Except ConfigError (Int64 × String)) : Accessor :=
  .ofList [watchdogSection, "app:one", "APP:two"]
    [⟨watchdogSection, portKey, .ok (12345, "12345")⟩,
      ⟨"app:one", delayKey, .ok (7, "7")⟩, ⟨"APP:two", delayKey, answer⟩]

/-- The watchdog's section with an interval for the first instance, and perhaps another entry. -/
def sharedStore (further : Option (String × String)) : Store :=
  ⟨[⟨"processwatchdog",
    [("udp_port", "12345"), ("1_heartbeat_interval", "30")] ++ further.toList⟩]⟩

theorem instances_isolated_neighbours :
    (SameAnswers (pairedSettings (.ok (5, "5"))) (pairedSettings (.error (.load .notUnicode))) 1
        (Layout.auto.effective (pairedSettings (.ok (5, "5")))) ∧
      resolve (pairedSettings (.error (.load .notUnicode))) 1 .auto =
        resolve (pairedSettings (.ok (5, "5"))) 1 .auto) ∧
    Relation.ReflTransGen (Store.EditedBeside 1) (sharedStore none)
        (sharedStore (some ("11_heartbeat_interval", "soon"))) ∧
      resolve (sharedStore (some ("11_heartbeat_interval", "soon"))).accessor 1 .auto =
        resolve (sharedStore none).accessor 1 .auto := by
  have own : applicationSection? (pairedSettings (.ok (5, "5"))) 1 = some "app:one" := by decide
  have answers : SameAnswers (pairedSettings (.ok (5, "5")))
      (pairedSettings (.error (.load .notUnicode))) 1
      (Layout.auto.effective (pairedSettings (.ok (5, "5")))) := by
    intro sectionName owns
    obtain rfl := Option.some_inj.mp (own.symm.trans (applicationSection?_eq_some_iff.mpr owns))
    exact ⟨by decide, by decide⟩
  have name : ∀ entry ∈ some ("11_NAME", "late"), IsKeyOf 11 entry.1 := by
    rintro _ ⟨⟩
    exact ⟨nameKey, by decide, by decide⟩
  have interval : ∀ entry ∈ some ("11_heartbeat_interval", "soon"), IsKeyOf 11 entry.1 := by
    rintro _ ⟨⟩
    exact ⟨intervalKey, by decide, by decide⟩
  have added : Store.EditedBeside 1 (sharedStore none) (sharedStore (some ("11_NAME", "late"))) :=
    ⟨11, by decide, .entry [] [] "processwatchdog" _ [] none _ nofun name⟩
  have replaced : Store.EditedBeside 1 (sharedStore (some ("11_NAME", "late")))
      (sharedStore (some ("11_heartbeat_interval", "soon"))) :=
    ⟨11, by decide, .entry [] [] "processwatchdog" _ [] _ _ name interval⟩
  have edits := (Relation.ReflTransGen.single added).tail replaced
  exact ⟨⟨answers, (instances_isolated 1 .auto).1 _ _ rfl (by decide) answers⟩, edits,
    (instances_isolated 1 .auto).2 _ _ edits⟩

end Heartbeat
