import Heartbeat.Proofs.DocumentRoundTrip
import Heartbeat.Settings.Store
import Mathlib.Data.List.Nodup
import Mathlib.Data.List.TakeWhile

/-!
# What a document leaves in the store

Loading merges names in three places: sections of one name, keys of one name, and what an access
path meets on its way. In a `Lossless` document nothing is merged, so that its text comes into the
store section by section and entry by entry, with names in lower case (`Store.load_text`), and
every entry is found under the names it was written with (`Store.find?_of_holds`).

Names that differ at most in case are one name to the store. `Distinct` items are those that it
tells apart, and `find?_sameIgnoringCase` is the lookup among them.
-/

set_option autoImplicit false
set_option relaxedAutoImplicit false

namespace Heartbeat

open Text

namespace Settings

/-! ### Names that are told apart -/

/-- Items whose names are ASCII texts and differ in more than case. -/
structure Distinct {α : Type} (name : α → String) (items : List α) : Prop where
  ascii : ∀ item ∈ items, ∀ c ∈ (name item).toList, c.toNat < 128
  nodup : (items.map fun item ↦ lowercased (name item)).Nodup

namespace Distinct

variable {α : Type} {name : α → String} {items : List α}

/-- Names that differ in more than case are different names. -/
theorem nodup_map (distinct : Distinct name items) : (items.map name).Nodup := by
  have lowered := distinct.nodup
  rw [← Function.comp_def, ← List.map_map] at lowered
  exact lowered.of_map

/-- The first item whose name in lower case is the name of an item up to case is that item. -/
theorem find?_sameIgnoringCase (distinct : Distinct name items) {item : α} (member : item ∈ items) :
    (items.find? fun other ↦ sameIgnoringCase (lowercased (name other)) (name item)) =
      some item := by
  have same : ∀ other ∈ items,
      sameIgnoringCase (lowercased (name other)) (name item) = true → other = item := by
    intro other known alike
    rw [sameIgnoringCase_lowercased_iff (distinct.ascii other known)
      (distinct.ascii item member)] at alike
    exact List.inj_on_of_nodup_map distinct.nodup known member alike
  have self : sameIgnoringCase (lowercased (name item)) (name item) = true :=
    (sameIgnoringCase_lowercased_iff (distinct.ascii item member)
      (distinct.ascii item member)).mpr rfl
  have some : (items.find? fun other ↦
      sameIgnoringCase (lowercased (name other)) (name item)).isSome = true :=
    List.find?_isSome.mpr ⟨item, member, self⟩
  obtain ⟨found, first⟩ := Option.isSome_iff_exists.mp some
  have alike : sameIgnoringCase (lowercased (name found)) (name item) = true :=
    @List.find?_some α (fun other ↦ sameIgnoringCase (lowercased (name other)) (name item))
      found items first
  rw [first, same found (List.mem_of_find?_eq_some first) alike]

end Distinct

/-! ### Keys that are new to a table -/

/-- A key that is not in a table comes last. -/
theorem updateKey_eq_append {α : Type} {key : String} (change : Option α → α)
    {known : List (String × α)} (new : key ∉ known.map Prod.fst) :
    updateKey key change known = known ++ [(key, change none)] := by
  induction known with
  | nil => rfl
  | cons first known ih =>
    rw [List.map_cons, List.mem_cons, not_or] at new
    rw [updateKey, if_neg (Ne.symm new.1), ih new.2]
    rfl

/-- Different keys that are new to a table are put at its end in their order. -/
theorem foldl_updateKey {α β : Type} (key : β → String) (value : β → α) (items : List β)
    (known : List (String × α)) (nodup : (known.map Prod.fst ++ items.map key).Nodup) :
    items.foldl (fun known item ↦ updateKey (key item) (fun _ ↦ value item) known) known =
      known ++ items.map fun item ↦ (key item, value item) := by
  induction items generalizing known with
  | nil => rw [List.foldl_nil, List.map_nil, List.append_nil]
  | cons first items ih =>
    rw [List.map_cons] at nodup
    have new : key first ∉ known.map Prod.fst := fun old ↦
      List.disjoint_of_nodup_append nodup old List.mem_cons_self
    rw [List.foldl_cons, updateKey_eq_append _ new, ih _ (by simpa using nodup), List.map_cons,
      List.append_assoc, List.singleton_append]

theorem lastValues_eq_map {entries : List Ini.Entry} (nodup : (entries.map Ini.Entry.key).Nodup) :
    lastValues entries = entries.map fun entry ↦ (entry.key, entry.value) :=
  foldl_updateKey Ini.Entry.key Ini.Entry.value entries [] nodup

/-- A table that comes to a new place has its keys in lower case. -/
theorem Tree.merged_table {entries : List (String × String)}
    (nodup : (entries.map fun entry ↦ lowercased entry.1).Nodup) :
    merged (.table entries) none =
      .table (entries.map fun entry ↦ (lowercased entry.1, .text entry.2)) := by
  have gathered := foldl_updateKey (fun entry : String × String ↦ lowercased entry.1)
    (fun entry ↦ Tree.text entry.2) entries [] nodup
  rw [List.nil_append] at gathered
  rw [← gathered]
  exact List.foldl_hom Tree.table fun known entry ↦ rfl

/-- A content with a name that is new to a table comes last. -/
theorem Tree.assign_new {root : String} {known : List (String × Tree)} (content : Content)
    (new : root ∉ known.map Prod.fst) :
    (Tree.table known).assign ⟨root, []⟩ content =
      .ok (.table (known ++ [(root, merged content none)])) := by
  have absent : (Tree.table known).find? root = none := by
    refine List.lookup_eq_none_iff.mpr fun entry member ↦ ?_
    rw [bne_iff_ne]
    rintro rfl
    exact new (List.mem_map_of_mem member)
  unfold assign changeKey
  rw [absent]
  show Except.ok (Tree.table (updateKey root (fun _ ↦ merged content none) known)) = _
  rw [updateKey_eq_append _ new]

/-- Contents with names that are new to a table and no paths come last, in their order. -/
theorem Tree.foldlM_assign_new {β : Type} (name : β → String) (content : β → Content)
    {items : List β} {known : List (String × Tree)}
    (paths : ∀ item ∈ items, AccessPath.ofName (name item) = ⟨lowercased (name item), []⟩)
    (nodup : (known.map Prod.fst ++ items.map fun item ↦ lowercased (name item)).Nodup) :
    (items.map fun item ↦ (name item, content item)).foldlM
        (fun tree content ↦ tree.assign (AccessPath.ofName content.1) content.2)
        (Tree.table known) =
      .ok (.table (known ++
        items.map fun item ↦ (lowercased (name item), merged (content item) none))) := by
  induction items generalizing known with
  | nil =>
    rw [List.map_nil, List.map_nil, List.append_nil]
    rfl
  | cons first items ih =>
    obtain ⟨path, others⟩ := List.forall_mem_cons.mp paths
    have new : lowercased (name first) ∉ known.map Prod.fst := fun old ↦
      List.disjoint_of_nodup_append nodup old List.mem_cons_self
    have rest := @ih (known ++ [(lowercased (name first), merged (content first) none)]) others
      (by simpa using nodup)
    rw [List.append_assoc, List.singleton_append] at rest
    rw [List.map_cons, List.foldlM_cons, path, assign_new _ new]
    exact rest

end Settings

/-! ### Sections of a document in the store -/

/-- An entry stands in a section with a name. -/
def Ini.Document.Holds (document : Document) (sectionName : String) (entry : Entry) : Prop :=
  ∃ opened ∈ document.sections, opened.name = sectionName ∧ entry ∈ opened.entries

namespace Settings

/-- A document in which every section and every entry stands for itself. -/
structure Lossless (document : Ini.Document) : Prop where
  general : document.general = []
  sections : Distinct Ini.Section.name document.sections
  paths : ∀ opened ∈ document.sections,
    AccessPath.ofName opened.name = ⟨lowercased opened.name, []⟩
  entries : ∀ opened ∈ document.sections, Distinct Ini.Entry.key opened.entries

/-- A section as a content with its name. -/
def sectionContent (opened : Ini.Section) : String × Content :=
  (opened.name, .table (opened.entries.map fun entry ↦ (entry.key, entry.value)))

/-- What is stored for a section of a document. -/
def StoredSection.ofSection (opened : Ini.Section) : StoredSection :=
  ⟨lowercased opened.name, opened.entries.map fun entry ↦ (lowercased entry.key, entry.value)⟩

/-- The table of a stored section, with its name. -/
def StoredSection.table (stored : StoredSection) : String × Tree :=
  (stored.name, .table (stored.entries.map fun entry ↦ (entry.1, .text entry.2)))

/-- The store of the sections of a document. -/
def Store.ofSections (document : Ini.Document) : Store :=
  ⟨document.sections.map .ofSection⟩

theorem textsOf_texts (entries : List (String × String)) :
    textsOf (entries.map fun entry ↦ (entry.1, .text entry.2)) = .ok entries := by
  unfold textsOf
  induction entries with
  | nil => rfl
  | cons first entries ih =>
    rw [List.map_cons, List.mapM_cons, ih]
    rfl

/-- Tables of texts are the stored sections that they are the tables of. -/
theorem sectionsOf_tables (sections : List StoredSection) :
    sectionsOf (sections.map StoredSection.table) = ([], .ok sections) := by
  induction sections with
  | nil => rfl
  | cons first sections ih =>
    rw [List.map_cons, StoredSection.table, sectionsOf, textsOf_texts]
    dsimp only
    rw [ih]
    rfl

namespace Lossless

variable {document : Ini.Document}

theorem contents_eq (lossless : Lossless document) :
    contents document = document.sections.map sectionContent := by
  have gathered := foldl_updateKey Ini.Section.name
    (fun opened ↦ Content.table (lastValues opened.entries)) document.sections []
    lossless.sections.nodup_map
  unfold contents
  rw [lossless.general, List.foldl_nil, gathered, List.nil_append]
  refine List.map_congr_left fun opened member ↦ ?_
  rw [lastValues_eq_map (lossless.entries opened member).nodup_map]
  rfl

/-- What a section comes to where nothing was before is its stored table. -/
theorem merged_section (lossless : Lossless document) {opened : Ini.Section}
    (member : opened ∈ document.sections) :
    (lowercased opened.name, Tree.merged (sectionContent opened).2 none) =
      (StoredSection.ofSection opened).table := by
  have keys : ((opened.entries.map fun entry ↦ (entry.key, entry.value)).map
      fun entry ↦ lowercased entry.1).Nodup := by
    rw [List.map_map]
    exact (lossless.entries opened member).nodup
  unfold sectionContent StoredSection.table StoredSection.ofSection
  dsimp only
  rw [Tree.merged_table keys, List.map_map, List.map_map]
  rfl

/-- The tree of a document has the tables of its sections. -/
theorem treeOf_eq (lossless : Lossless document) :
    treeOf document =
      .ok (.table ((document.sections.map StoredSection.ofSection).map StoredSection.table)) := by
  have made := @Tree.foldlM_assign_new _ Ini.Section.name (fun opened ↦ (sectionContent opened).2)
    document.sections [] lossless.paths lossless.sections.nodup
  rw [List.nil_append, List.map_congr_left fun _ ↦ lossless.merged_section, ← Function.comp_def,
    ← List.map_map] at made
  unfold treeOf
  rw [lossless.contents_eq]
  exact made

end Lossless

namespace Store

variable {document : Ini.Document}

/-- A document is stored as its sections. -/
theorem ofDocument_eq (lossless : Lossless document) :
    ofDocument document =
      .ok ⟨[.found document.sections.length], .ok (ofSections document)⟩ := by
  unfold ofDocument
  rw [lossless.treeOf_eq]
  simp only [Except.map, Tree.entries, sectionsOf_tables, List.nil_append, List.length_map]
  rfl

/-- The text of a document is stored as the sections of the document. -/
theorem load_text (plain : document.Plain) (lossless : Lossless document) :
    load document.text =
      .ok ⟨[.found document.sections.length], .ok (ofSections document)⟩ := by
  unfold load ofText Ini.Document.text
  rw [String.toList_ofList, Ini.Document.read_chars plain]
  exact ofDocument_eq lossless

/-! ### Lookups in the store -/

/-- A value is found under its section and its key. -/
theorem find?_of_holds (lossless : Lossless document) {sectionName : String} {entry : Ini.Entry}
    (holds : document.Holds sectionName entry) :
    (ofSections document).find? sectionName entry.key = some entry.value := by
  obtain ⟨opened, member, rfl, listed⟩ := holds
  have here : ((ofSections document).sections.find? fun stored ↦
      sameIgnoringCase stored.name opened.name) = some (.ofSection opened) := by
    unfold ofSections
    rw [List.find?_map]
    show ((document.sections.find? fun other ↦
      sameIgnoringCase (lowercased other.name) opened.name).map _) = _
    rw [lossless.sections.find?_sameIgnoringCase member, Option.map_some]
  unfold find?
  rw [here, Option.bind_some]
  unfold StoredSection.ofSection
  dsimp only
  rw [List.find?_map]
  show ((opened.entries.find? fun other ↦
    sameIgnoringCase (lowercased other.key) entry.key).map _).map _ = _
  rw [(lossless.entries opened member).find?_sameIgnoringCase listed]
  rfl

/-- A value is the text under its key. -/
theorem getString_of_holds (lossless : Lossless document) {sectionName key value : String}
    (holds : document.Holds sectionName ⟨key, value⟩) :
    (ofSections document).accessor.getString sectionName key = .ok value := by
  have found := find?_of_holds lossless holds
  show (ofSections document).getString sectionName key = _
  unfold getString
  rw [found]

/-- An integer in decimal is the integer under its key. -/
theorem getInt_of_holds (lossless : Lossless document) {sectionName key : String} {value : Int64}
    (holds : document.Holds sectionName ⟨key, toString value.toInt⟩) :
    (ofSections document).accessor.getInt sectionName key = .ok value := by
  have found := find?_of_holds lossless holds
  show (ofSections document).getInt sectionName key = _
  unfold getInt
  rw [found]
  dsimp only
  rw [trim_of_unpadded (unpadded_toString value.toInt), readInt64?_toString]

end Store

/-! ### Names that are no paths -/

namespace AccessPath

/-- A name of identifier characters is one identifier. -/
theorem ofName_of_identifier {name : String} (named : name ≠ "")
    (identifier : ∀ c ∈ name.toList, isIdentifierChar c = true) :
    ofName name = ⟨lowercased name, []⟩ := by
  have front : name.toList.takeWhile isIdentifierChar = name.toList :=
    List.takeWhile_eq_self_iff.mpr identifier
  have back : name.toList.dropWhile isIdentifierChar = [] :=
    List.dropWhile_eq_nil_iff.mpr identifier
  unfold ofName read?
  rw [front, back]
  dsimp only
  rw [if_neg (fun none ↦ named (String.toList_eq_nil_iff.mp none)), readSteps?]
  rfl

/-- A name is one identifier as it stands if no step begins after its identifier characters. -/
theorem ofName_of_mark {name : String} {front rest : List Char} {c : Char}
    (chars : name.toList = front ++ c :: rest)
    (identifier : ∀ c ∈ front, isIdentifierChar c = true) (mark : isIdentifierChar c = false)
    (noStep : c ≠ '.' ∧ c ≠ '[') : ofName name = ⟨lowercased name, []⟩ := by
  have unread : readSteps? name.toList.length (c :: rest) = none := by
    cases name.toList.length with
    | zero => rfl
    | succ fuel => simp [readSteps?, noStep]
  have whole : read? name.toList = none := by
    unfold read?
    rw [chars, List.dropWhile_append_of_pos identifier,
      List.dropWhile_cons_of_neg (by simp [mark]), ← chars, unread]
    dsimp only
    split_ifs <;> rfl
  unfold ofName
  rw [whole]
  rfl

end AccessPath

end Settings

end Heartbeat
