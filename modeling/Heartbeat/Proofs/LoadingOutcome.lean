import Heartbeat.Instance.Resolution
import Heartbeat.Proofs.StoreContents
import Heartbeat.Proofs.TreeGrowth

/-!
# When a document loads

A document is stored if the tables of its tree hold nothing but texts and all its subscripts can be
gone. Both depend on nothing but names, because every value is a text. A name nests if its path goes
on from a section (`Document.Nests`), and it overreaches if a subscript in it may lead out of a list
(`Document.Overreaches`): these are the only reasons why a document does not load, each with its own
outcome (`Store.loads_or_misnamed`). The name may be that of a section that no instance asks for.

The tables of a tree come into the store one by one and in their order
(`map_table_of_sectionsOf`).
-/

set_option autoImplicit false
set_option relaxedAutoImplicit false

namespace Heartbeat.Settings

open Heartbeat.Text

/-! ### The sections of a tree -/

/-- A tree is a table. -/
def Tree.isTable : Tree → Bool
  | .table _ => true
  | _ => false

section Sections

variable {tree : Tree} {entries : List (String × Tree)} {cause : LoadError}
  {notices : List LoadNotice} {sections : List StoredSection}

theorem textOf_eq_ok_iff {value : String} : textOf tree = .ok value ↔ tree = .text value := by
  cases tree <;> simp [textOf]

theorem exists_shape_of_textOf (failed : textOf tree = .error cause) :
    ∃ shape, cause = .wrongShape shape := by
  cases tree <;> cases failed <;> exact ⟨_, rfl⟩

theorem textsOf_cons (first : String × Tree) (entries : List (String × Tree)) :
    textsOf (first :: entries) = ((textOf first.2).map fun value ↦ (first.1, value)).bind fun text ↦
      (textsOf entries).map (text :: ·) := by
  unfold textsOf
  rw [List.mapM_cons]
  rfl

/-- The entries of a table are read as texts exactly if they are those texts. -/
theorem textsOf_eq_ok_iff {texts : List (String × String)} : textsOf entries = .ok texts ↔
    entries = texts.map fun entry ↦ (entry.1, .text entry.2) := by
  constructor
  · intro read
    induction entries generalizing texts with
    | nil =>
      cases read
      rfl
    | cons first entries ih =>
      rw [textsOf_cons] at read
      obtain ⟨text, here, further⟩ := bind_eq_ok_iff.mp read
      obtain ⟨value, own, rfl⟩ := map_eq_ok_iff.mp here
      obtain ⟨others, later, rfl⟩ := map_eq_ok_iff.mp further
      rw [List.map_cons, ← ih later, ← textOf_eq_ok_iff.mp own]
  · rintro rfl
    exact textsOf_texts texts

theorem exists_shape_of_textsOf (failed : textsOf entries = .error cause) :
    ∃ shape, cause = .wrongShape shape := by
  induction entries with
  | nil => cases failed
  | cons first entries ih =>
    rw [textsOf_cons] at failed
    cases here : textOf first.2 with
    | error other =>
      rw [here] at failed
      cases failed
      exact exists_shape_of_textOf here
    | ok value =>
      rw [here] at failed
      exact ih (map_eq_error_iff.mp failed)

/-- Entries that are texts are read. -/
theorem exists_textsOf (texts : ∀ entry ∈ entries, ∃ value, entry.2 = .text value) :
    ∃ values, textsOf entries = .ok values := by
  induction entries with
  | nil => exact ⟨[], rfl⟩
  | cons first entries ih =>
    obtain ⟨⟨value, own⟩, others⟩ := List.forall_mem_cons.mp texts
    obtain ⟨values, read⟩ := ih others
    rw [textsOf_cons, own, read]
    exact ⟨_, rfl⟩

/-- The stored sections are the tables of a tree, in their order. -/
theorem map_table_of_sectionsOf (made : sectionsOf entries = (notices, .ok sections)) :
    sections.map StoredSection.table = entries.filter (·.2.isTable) := by
  fun_induction sectionsOf entries generalizing notices sections with
  | case1 =>
    cases made
    rfl
  | case2 => cases made
  | case3 name inner rest texts read others further same ih =>
    obtain ⟨-, made⟩ := Prod.mk.inj made
    obtain ⟨later, stored, rfl⟩ := map_eq_ok_iff.mp made
    rw [List.map_cons, ih (same.trans (congrArg _ stored)), List.filter_cons_of_pos rfl,
      textsOf_eq_ok_iff.mp read]
    rfl
  | case4 name value rest other others further same ih =>
    obtain ⟨-, rfl⟩ := Prod.mk.inj made
    rw [ih same, List.filter_cons_of_neg]
    cases value <;> simp_all [Tree.isTable]

theorem exists_shape_of_sectionsOf (failed : sectionsOf entries = (notices, .error cause)) :
    ∃ shape, cause = .wrongShape shape := by
  fun_induction sectionsOf entries generalizing notices with
  | case1 => cases failed
  | case2 name inner rest other read =>
    obtain ⟨-, same⟩ := Prod.mk.inj failed
    cases same
    exact exists_shape_of_textsOf read
  | case3 name inner rest texts read others further same ih =>
    obtain ⟨-, failed⟩ := Prod.mk.inj failed
    exact ih (same.trans (congrArg _ (map_eq_error_iff.mp failed)))
  | case4 name value rest other others further same ih =>
    obtain ⟨-, rfl⟩ := Prod.mk.inj failed
    exact ih same

/-- Tables of texts are sections, and what is no table does not matter. -/
theorem exists_sectionsOf (texts : ∀ entry ∈ entries, entry.2.HoldsTexts) :
    ∃ sections, (sectionsOf entries).2 = .ok sections := by
  fun_induction sectionsOf entries with
  | case1 => exact ⟨[], rfl⟩
  | case2 name inner rest cause read =>
    obtain ⟨values, also⟩ := exists_textsOf (texts _ List.mem_cons_self)
    exact nomatch read.symm.trans also
  | case3 name inner rest values read notices sections same ih =>
    obtain ⟨stored, made⟩ := ih (List.forall_mem_cons.mp texts).2
    exact ⟨_, map_eq_ok_iff.mpr ⟨stored, (congrArg Prod.snd same).symm.trans made, rfl⟩⟩
  | case4 name value rest other notices sections same ih =>
    obtain ⟨stored, made⟩ := ih (List.forall_mem_cons.mp texts).2
    exact ⟨stored, (congrArg Prod.snd same).symm.trans made⟩

end Sections

/-! ### The contents of a document -/

theorem mem_foldl_updateKey {α β : Type} {key : β → String} {value : β → α} {items : List β}
    {known : List (String × α)} {entry : String × α}
    (member : entry ∈ items.foldl (fun known item ↦
      updateKey (key item) (fun _ ↦ value item) known) known) :
    entry ∈ known ∨ ∃ item ∈ items, entry = (key item, value item) := by
  induction items generalizing known with
  | nil => exact .inl member
  | cons first items ih =>
    rcases ih member with early | ⟨item, listed, rfl⟩
    · rcases mem_updateKey early with rfl | old
      · exact .inr ⟨first, List.mem_cons_self, rfl⟩
      · exact .inl old
    · exact .inr ⟨item, List.mem_cons_of_mem _ listed, rfl⟩

section Contents

variable {document : Ini.Document} {content : String × Content}

/-- A value that is kept for a key was assigned to it. -/
theorem mem_of_mem_lastValues {entries : List Ini.Entry} {kept : String × String}
    (member : kept ∈ lastValues entries) : ∃ entry ∈ entries, kept = (entry.key, entry.value) :=
  (mem_foldl_updateKey member).resolve_left List.not_mem_nil

/-- A content is that of a general entry or of a section. -/
theorem mem_contents (member : content ∈ contents document) :
    (∃ entry ∈ document.general, content = (entry.key, .text entry.value)) ∨
      ∃ opened ∈ document.sections, content = (opened.name, .table (lastValues opened.entries)) := by
  rcases mem_foldl_updateKey member with early | late
  · exact .inl ((mem_foldl_updateKey early).resolve_left List.not_mem_nil)
  · exact .inr late

end Contents

/-! ### Names that keep a document from loading -/

namespace AccessPath

/-- A path leads into a section. -/
def leadsInside (path : AccessPath) : Bool :=
  match path.steps with
  | .child _ :: _ => true
  | _ => false

/-- A path leads into an entry of a section. -/
def leadsDeeper (path : AccessPath) : Bool :=
  match path.steps with
  | .child _ :: _ :: _ => true
  | _ => false

theorem leadsInside_of_nests {path : AccessPath} {content : Content}
    (nests : Tree.Nests path.steps content) : path.leadsInside = true := by
  obtain ⟨root, steps⟩ := path
  cases nests <;> rfl

theorem leadsDeeper_of_nests {path : AccessPath} {value : String}
    (nests : Tree.Nests path.steps (.text value)) : path.leadsDeeper = true := by
  obtain ⟨root, steps⟩ := path
  cases nests
  rfl

end AccessPath

instance : DecidablePred PathStep.Passable
  | .child _ => .isTrue trivial
  | .place _ => inferInstanceAs (Decidable (_ ∧ _))

end Heartbeat.Settings

namespace Heartbeat

open Settings

namespace Ini.Document

/-- The names in a document that are read as paths: those of its sections and those of its general
entries. -/
def names (document : Document) : List String :=
  document.general.map Entry.key ++ document.sections.map Section.name

theorem mem_names_of_general {document : Document} {entry : Entry}
    (member : entry ∈ document.general) : entry.key ∈ document.names :=
  List.mem_append_left _ (List.mem_map_of_mem member)

theorem mem_names_of_section {document : Document} {opened : Section}
    (member : opened ∈ document.sections) : opened.name ∈ document.names :=
  List.mem_append_right _ (List.mem_map_of_mem member)

/-- A section would stand in another section, or a general entry in an entry of a section. -/
def Nests (document : Document) : Prop :=
  (∃ opened ∈ document.sections, (AccessPath.ofName opened.name).leadsInside = true) ∨
    ∃ entry ∈ document.general, (AccessPath.ofName entry.key).leadsDeeper = true

/-- A subscript in a name counts from the end of a list or lies past the longest list. -/
def Overreaches (document : Document) : Prop :=
  ∃ name ∈ document.names, ∃ step ∈ (AccessPath.ofName name).steps, ¬ step.Passable

instance (document : Document) : Decidable document.Nests :=
  inferInstanceAs (Decidable (_ ∨ _))

instance (document : Document) : Decidable document.Overreaches :=
  inferInstanceAs (Decidable (∃ name ∈ _, _))

end Ini.Document

namespace Settings

section Outcome

variable {document : Ini.Document} {content : String × Content}

theorem mem_names_of_mem_contents (member : content ∈ contents document) :
    content.1 ∈ document.names := by
  rcases mem_contents member with ⟨entry, listed, rfl⟩ | ⟨opened, listed, rfl⟩
  · exact Ini.Document.mem_names_of_general listed
  · exact Ini.Document.mem_names_of_section listed

theorem nests_of_mem_contents (member : content ∈ contents document)
    (nests : Tree.Nests (AccessPath.ofName content.1).steps content.2) : document.Nests := by
  rcases mem_contents member with ⟨entry, listed, rfl⟩ | ⟨opened, listed, rfl⟩
  · exact .inr ⟨entry, listed, AccessPath.leadsDeeper_of_nests nests⟩
  · exact .inl ⟨opened, listed, AccessPath.leadsInside_of_nests nests⟩

/-- What is stored are the tables of the tree of the document. -/
theorem exists_treeOf {notices : List LoadNotice} {store : Store}
    (stored : Store.ofDocument document = .ok ⟨notices, .ok store⟩) :
    ∃ tree, treeOf document = .ok tree ∧
      store.sections.map StoredSection.table = tree.entries.filter (·.2.isTable) := by
  obtain ⟨tree, made, outcome⟩ := map_eq_ok_iff.mp stored
  refine ⟨tree, made, ?_⟩
  rcases found : sectionsOf tree.entries with ⟨ignored, cause | sections⟩
  · rw [found] at outcome
    cases outcome
  · rw [found] at outcome
    cases outcome
    exact map_table_of_sectionsOf found

/-- A document is stored unless it nests, and it has an outcome unless it overreaches. -/
theorem Store.ofDocument_cases (document : Ini.Document) :
    (∃ notices store, Store.ofDocument document = .ok ⟨notices, .ok store⟩) ∨
      (document.Nests ∧ ∃ notices shape,
        Store.ofDocument document = .ok ⟨notices, .error (.load (.wrongShape shape))⟩) ∨
      document.Overreaches ∧ Store.ofDocument document = .error .placeOutOfRange := by
  unfold Store.ofDocument
  cases made : treeOf document with
  | error fault =>
    obtain ⟨rfl, content, member, closed⟩ := exists_of_treeOf_eq_error made
    exact .inr (.inr ⟨⟨content.1, mem_names_of_mem_contents member, closed⟩, rfl⟩)
  | ok tree =>
    dsimp only [Except.map]
    rcases outcome : sectionsOf tree.entries with ⟨notices, cause | sections⟩
    · obtain ⟨shape, rfl⟩ := exists_shape_of_sectionsOf outcome
      refine .inr (.inl ⟨?_, notices, shape, rfl⟩)
      -- If no name nested, all tables would hold texts, and all of them would be read.
      by_contra plain
      have flat : tree.Flat := flat_of_treeOf made fun content member nests ↦
        plain (nests_of_mem_contents member nests)
      obtain ⟨sections, stored⟩ := exists_sectionsOf flat
      rw [outcome] at stored
      cases stored
    · exact .inl ⟨_, _, rfl⟩

end Outcome

theorem Store.load_of_read {text : String} {document : Ini.Document}
    (read : Ini.Document.read text.toList = .ok document) :
    Store.load text = Store.ofDocument document := by
  unfold Store.load Store.ofText
  rw [read]

/-- Every text that is a document loads, unless the path in one of its names nests or overreaches.
What becomes of the text then is an error about what stands in a section, or no outcome at all. -/
theorem Store.loads_or_misnamed {text : String} {document : Ini.Document}
    (read : Ini.Document.read text.toList = .ok document) :
    (∃ notices store, Store.load text = .ok ⟨notices, .ok store⟩) ∨
      (document.Nests ∧ ∃ notices shape,
        Store.load text = .ok ⟨notices, .error (.load (.wrongShape shape))⟩) ∨
      document.Overreaches ∧ Store.load text = .error .placeOutOfRange := by
  rw [Store.load_of_read read]
  exact ofDocument_cases document

/-- Names with dots and a subscript that lead nowhere into a section. -/
def pathsText : String :=
  "log.level = info\nhistory[2] = x\n[app:v1.2]\nheartbeat_delay = 5\n"

theorem Store.loads_or_misnamed_paths :
    ∃ document, Ini.Document.read pathsText.toList = .ok document ∧
      ∃ notices store, Store.load pathsText = .ok ⟨notices, .ok store⟩ ∧
        store.accessor.sections = ["log", "app:v1.2"] := by
  have read : Ini.Document.read pathsText.toList =
      .ok ⟨[⟨"log.level", "info"⟩, ⟨"history[2]", "x"⟩],
        [⟨"app:v1.2", [⟨delayKey, "5"⟩]⟩]⟩ := by decide +kernel
  have loaded : Store.load pathsText = .ok ⟨[.ignored "history", .found 2],
      .ok ⟨[⟨"log", [("level", "info")]⟩, ⟨"app:v1.2", [(delayKey, "5")]⟩]⟩⟩ := rfl
  rcases Store.loads_or_misnamed read with ⟨notices, store, found⟩ | ⟨nests, -⟩ | ⟨overreaches, -⟩
  · refine ⟨_, read, notices, store, found, ?_⟩
    cases loaded.symm.trans found
    rfl
  · exact absurd nests (by decide)
  · exact absurd overreaches (by decide)

/-- A section of the watchdog, and another one with a dot in its name. -/
def nestingText : String :=
  "[processWatchdog]\nudp_port = 12345\n[log.file]\nlevel = info\n"

theorem Store.stranger_nests :
    Ini.Document.read nestingText.toList = .ok ⟨[], [⟨watchdogSection, [⟨portKey, "12345"⟩]⟩,
        ⟨"log.file", [⟨"level", "info"⟩]⟩]⟩ ∧
      Store.load nestingText = .ok ⟨[], .error (.load (.wrongShape .table))⟩ :=
  ⟨by decide +kernel, rfl⟩

end Settings

end Heartbeat
