import Heartbeat.Proofs.LastLine

/-!
# Names that the store tells apart

Whatever the document, no two sections of its store and no two keys of a section are the same up to
ASCII case, so that no entry hides another one: each is found under its names in any case
(`Store.find?_of_mem`).

A header may still be missing from the listed sections. `Ini.Document.Lists` says what a header
needs to be listed: its name is no path, no other name makes a list of it, and no key before the
first header is left in its place. A table that has come to a place stays there while only tables
come to it or into it (`Tree.HasTable.assign`), so `Tree.hasTable_of_foldlM_assign` follows the
contents from the header on. `Store.lists_and_finds_stored` is the statement for every text that
loads.
-/

set_option autoImplicit false
set_option relaxedAutoImplicit false

namespace Heartbeat

open Text

namespace Settings

/-! ### Entries that are told apart -/

section Entries

variable {α β : Type} {entries : List (String × α)}

theorem Keyed.sublist {some : List (String × α)} (keyed : Keyed entries)
    (sublist : some.Sublist entries) : Keyed some where
  nodup := keyed.nodup.sublist (sublist.map Prod.fst)
  lower key member := keyed.lower key ((sublist.map Prod.fst).subset member)

theorem keyed_map_snd_iff (change : α → β) :
    Keyed (entries.map fun entry ↦ (entry.1, change entry.2)) ↔ Keyed entries := by
  have keys : (entries.map fun entry ↦ (entry.1, change entry.2)).map Prod.fst =
      entries.map Prod.fst := by
    rw [List.map_map]
    rfl
  exact ⟨fun keyed ↦ ⟨keys ▸ keyed.nodup, keys ▸ keyed.lower⟩,
    fun keyed ↦ ⟨keys.symm ▸ keyed.nodup, keys.symm ▸ keyed.lower⟩⟩

/-- Different keys in lower case differ in more than ASCII case. -/
theorem Keyed.pairwise (keyed : Keyed entries) :
    entries.Pairwise fun first second ↦ sameIgnoringCase first.1 second.1 = false := by
  refine (List.pairwise_map.mp keyed.nodup).imp_of_mem fun {first second} here there different ↦ ?_
  rw [← Bool.not_eq_true, sameIgnoringCase_of_lower_iff
    (keyed.lower _ (List.mem_map_of_mem here)),
    asciiLowered_of_lower (keyed.lower _ (List.mem_map_of_mem there))]
  exact different

/-- The last of some items with a key gives it its value. -/
theorem lookup_foldl_updateKey (name : β → String) (value : β → α) (items : List β)
    (known : List (String × α)) (key : String) :
    (items.foldl (fun known item ↦ updateKey (name item) (fun _ ↦ value item) known)
        known).lookup key =
      ((items.filter (name · == key)).getLast?.map value).or (known.lookup key) := by
  induction items using List.reverseRecOn with
  | nil => rfl
  | append_singleton items item ih =>
    rw [List.foldl_concat, lookup_updateKey, ih, List.filter_append]
    by_cases here : key = name item
    · subst here
      simp
    · simp [here, Ne.symm here]

/-- New keys come after those that are known. -/
theorem map_fst_foldl_updateKey (name : β → String) (value : β → α) (items : List β)
    (known : List (String × α)) :
    ∃ new, (∀ key ∈ new, ∃ item ∈ items, name item = key) ∧
      (items.foldl (fun known item ↦ updateKey (name item) (fun _ ↦ value item) known)
        known).map Prod.fst = known.map Prod.fst ++ new := by
  induction items using List.reverseRecOn with
  | nil => exact ⟨[], nofun, (List.append_nil _).symm⟩
  | append_singleton items item ih =>
    obtain ⟨new, named, keys⟩ := ih
    have earlier : ∀ key ∈ new, ∃ other ∈ items ++ [item], name other = key := fun key member ↦
      (named key member).imp fun _ found ↦ ⟨List.mem_append_left _ found.1, found.2⟩
    rw [List.foldl_concat, map_fst_updateKey, keys]
    split_ifs with old
    · exact ⟨new, earlier, rfl⟩
    · refine ⟨new ++ [name item], List.forall_mem_append.mpr ⟨earlier, ?_⟩, List.append_assoc ..⟩
      exact List.forall_mem_singleton.mpr ⟨item, List.mem_append_right _ (by simp), rfl⟩

end Entries

/-! ### Entries that are found -/

section Stored

variable {tree : Tree} {store : Store} {stored : StoredSection}

/-- The sections of a store are told apart. -/
theorem Store.keyed_tables (tidy : tree.Tidy)
    (tables : store.sections.map StoredSection.table = tree.entries.filter (·.2.isTable)) :
    Keyed (store.sections.map StoredSection.table) :=
  tables ▸ tidy.keyed.sublist List.filter_sublist

/-- The table of a stored section stands in the tree. -/
theorem Store.mem_entries_of_mem
    (tables : store.sections.map StoredSection.table = tree.entries.filter (·.2.isTable))
    (member : stored ∈ store.sections) : stored.table ∈ tree.entries :=
  List.mem_of_mem_filter (tables ▸ List.mem_map_of_mem member)

/-- The entries of a stored section are told apart. -/
theorem Store.keyed_entries (tidy : tree.Tidy)
    (tables : store.sections.map StoredSection.table = tree.entries.filter (·.2.isTable))
    (member : stored ∈ store.sections) : Keyed stored.entries :=
  (keyed_map_snd_iff Tree.text).mp (tidy.inside _ (mem_entries_of_mem tables member))

/-- Every entry of a store is found, whatever the case of the letters in its names. -/
theorem Store.find?_of_mem (tidy : tree.Tidy)
    (tables : store.sections.map StoredSection.table = tree.entries.filter (·.2.isTable))
    (member : stored ∈ store.sections) {entry : String × String} (listed : entry ∈ stored.entries)
    {sectionName key : String} (sameSection : sameIgnoringCase stored.name sectionName = true)
    (sameKey : sameIgnoringCase entry.1 key = true) :
    store.find? sectionName key = some entry.2 := by
  have present := mem_entries_of_mem tables member
  have keyed := keyed_entries tidy tables member
  have name : asciiLowered sectionName = stored.name := ((sameIgnoringCase_of_lower_iff
    (tidy.keyed.lower stored.name (List.mem_map_of_mem present))).mp sameSection).symm
  have own : asciiLowered key = entry.1 := ((sameIgnoringCase_of_lower_iff
    (keyed.lower entry.1 (List.mem_map_of_mem listed))).mp sameKey).symm
  have table : tree.find? stored.name = some stored.table.2 :=
    lookup_of_mem tidy.keyed.nodup present
  have text : stored.table.2.find? entry.1 = some (.text entry.2) :=
    lookup_of_mem (tidy.inside _ present).nodup (List.mem_map_of_mem listed)
  rw [Store.find?_eq tidy tables, name, own, table, Option.bind_some, text]
  rfl

end Stored

/-! ### Tables that stay -/

namespace Tree

/-- A tree has a table under a name. -/
def HasTable (tree : Tree) (root : String) : Prop :=
  ∃ entries, tree.find? root = some (.table entries)

/-- A content at the end of some steps leaves a table at their start: it is a table itself, or it
comes into one. -/
def LeavesTable : List PathStep → Content → Prop
  | [], .table _ => True
  | .child _ :: _, _ => True
  | _, _ => False

/-- A content leaves a table under a name, if it comes there at all. -/
def Spares (root : String) (content : String × Content) : Prop :=
  (AccessPath.ofName content.1).root = root →
    LeavesTable (AccessPath.ofName content.1).steps content.2

variable {tree later : Tree} {root name : String} {content : String × Content}

/-- A table that is merged into nothing or into a table gives a table, and so does one with entries
that is merged into anything. -/
theorem exists_merged_eq_table {entries : List (String × String)} {present : Option Tree}
    (room : entries ≠ [] ∨ ∀ tree ∈ present, ∃ inner, tree = .table inner) :
    ∃ inner, merged (.table entries) present = .table inner := by
  have further (rest : List (String × String)) (inner : List (String × Tree)) :
      ∃ last, rest.foldl (fun (tree : Tree) entry ↦
        tree.setKey (lowercased entry.1) (.text entry.2)) (.table inner) = .table last :=
    @List.foldlRecOn _ _ (fun tree : Tree ↦ ∃ last, tree = .table last) rest _ _ ⟨inner, rfl⟩
      fun _ _ _ _ ↦ ⟨_, rfl⟩
  cases entries with
  | cons first rest => exact further rest _
  | nil =>
    cases present with
    | none => exact ⟨[], rfl⟩
    | some tree => exact room.resolve_left (absurd rfl) tree rfl

/-- A slot that has nothing or a table has a table after a content that leaves one. -/
theorem Assigned.exists_eq_table {content : Content} {steps : List PathStep} {present : Option Tree}
    {value : Tree} (assigned : Assigned content steps present value)
    (leaves : LeavesTable steps content)
    (free : ∀ tree ∈ present, ∃ inner, tree = .table inner) : ∃ inner, value = .table inner := by
  cases assigned with
  | merged =>
    cases content with
    | text value => cases leaves
    | table entries => exact exists_merged_eq_table (.inr free)
  | child => exact ⟨_, rfl⟩
  | list => cases leaves

/-- There is nothing or a table under a name. -/
def Free (tree : Tree) (root : String) : Prop :=
  ∀ value ∈ tree.find? root, ∃ inner, value = .table inner

theorem HasTable.free (hasTable : tree.HasTable root) : tree.Free root := by
  obtain ⟨entries, found⟩ := hasTable
  intro value present
  exact ⟨entries, Option.some_inj.mp (present.symm.trans found)⟩

theorem Free.assign (free : tree.Free root) (spares : Spares root content)
    (made : tree.assign (AccessPath.ofName content.1) content.2 = .ok later) :
    later.Free root := by
  obtain ⟨value, inner, rfl⟩ := assign_eq_ok_iff.mp made
  intro found present
  rw [Option.mem_def, find?_setKey] at present
  split_ifs at present with here
  · subst here
    cases present
    exact (assigned_of_assignFrom inner).exists_eq_table (spares rfl) free
  · exact free found present

/-- A table stays where it is. -/
theorem HasTable.assign (hasTable : tree.HasTable root) (spares : Spares root content)
    (made : tree.assign (AccessPath.ofName content.1) content.2 = .ok later) :
    later.HasTable root := by
  have free := hasTable.free.assign spares made
  obtain ⟨value, inner, rfl⟩ := assign_eq_ok_iff.mp made
  have present : ((tree.setKey (AccessPath.ofName content.1).root value).find? root).isSome := by
    rw [find?_setKey]
    split_ifs with here
    · rfl
    · obtain ⟨entries, found⟩ := hasTable
      rw [found]
      rfl
  obtain ⟨found, shown⟩ := Option.isSome_iff_exists.mp present
  obtain ⟨entries, rfl⟩ := free found shown
  exact ⟨entries, shown⟩

/-- Once a table has come to a name, it stays there if the later contents leave it. It comes there
if it has entries, or if the earlier contents leave the place free. -/
theorem hasTable_of_foldlM_assign {front back : List (String × Content)}
    {entries : List (String × String)} (plain : AccessPath.ofName name = ⟨root, []⟩)
    (made : (front ++ (name, .table entries) :: back).foldlM
      (fun (tree : Tree) content ↦ tree.assign (AccessPath.ofName content.1) content.2)
        (.table []) = .ok later)
    (before : entries ≠ [] ∨ ∀ content ∈ front, Spares root content)
    (after : ∀ content ∈ back, Spares root content) : later.HasTable root := by
  rw [List.foldlM_append] at made
  obtain ⟨early, begun, further⟩ := bind_eq_ok_iff.mp made
  rw [List.foldlM_cons] at further
  obtain ⟨reached, put, rest⟩ := bind_eq_ok_iff.mp further
  have here : reached.HasTable root := by
    dsimp only at put
    rw [plain] at put
    obtain ⟨value, inner, rfl⟩ := assign_eq_ok_iff.mp put
    cases inner
    have free : entries ≠ [] ∨ early.Free root := before.imp_right fun spared ↦
      @foldlM_induction _ _ _ _ _ _ _ (Free · root) begun nofun
        fun _ _ content member free ↦ free.assign (spared content member)
    obtain ⟨inner, table⟩ := exists_merged_eq_table free
    refine ⟨inner, ?_⟩
    rw [find?_setKey, if_pos rfl, table]
  exact @foldlM_induction _ _ _ _ _ _ _ (HasTable · root) rest here
    fun _ _ content member hasTable ↦ hasTable.assign (after content member)

end Tree

/-! ### The contents of a header -/

section Contents

variable {document : Ini.Document} {opened : Ini.Section}

theorem nodup_contents (document : Ini.Document) :
    ((contents document).map Prod.fst).Nodup :=
  @List.foldlRecOn _ _ (fun known : List (String × Content) ↦ (known.map Prod.fst).Nodup)
    document.sections _ _ (nodup_foldl_updateKey _ _ document.general)
    fun _ before _ _ ↦ nodup_updateKey before

/-- A header has the content of the last section with its name. -/
theorem exists_lookup_contents (member : opened ∈ document.sections) :
    ∃ last ∈ document.sections, last.name = opened.name ∧
      (contents document).lookup opened.name = some (.table (lastValues last.entries)) := by
  have among : opened ∈ document.sections.filter (·.name == opened.name) :=
    List.mem_filter.mpr ⟨member, beq_self_eq_true _⟩
  obtain ⟨last, final⟩ := Option.ne_none_iff_exists'.mp
    (mt List.getLast?_eq_none_iff.mp (List.ne_nil_of_mem among))
  obtain ⟨listed, same⟩ := List.mem_filter.mp (List.mem_of_getLast? final)
  refine ⟨last, listed, beq_iff_eq.mp same, ?_⟩
  unfold contents
  dsimp only
  rw [lookup_foldl_updateKey, final]
  rfl

/-- A text that is left among the contents has not the name of a header. -/
theorem name_ne_of_mem_contents {key value : String}
    (text : (key, Content.text value) ∈ contents document) (member : opened ∈ document.sections) :
    opened.name ≠ key := by
  rintro rfl
  obtain ⟨last, -, -, table⟩ := exists_lookup_contents member
  cases table.symm.trans (lookup_of_mem (nodup_contents document) text)

/-- The contents before and after that of a header. A header that is not spelled like a general key
has nothing but headers after it. -/
theorem exists_contents_eq_append (member : opened ∈ document.sections) :
    ∃ front last back, contents document =
        front ++ (opened.name, .table (lastValues last.entries)) :: back ∧
      last ∈ document.sections ∧ last.name = opened.name ∧
      ((∀ entry ∈ document.general, entry.key ≠ opened.name) →
        ∀ content ∈ back, ∃ other ∈ document.sections, other.name = content.1) := by
  obtain ⟨last, listed, same, found⟩ := exists_lookup_contents member
  obtain ⟨front, back, parts, -⟩ := List.lookup_eq_some_iff.mp found
  refine ⟨front, last, back, parts, listed, same, fun new content later ↦ ?_⟩
  obtain ⟨added, named, keys⟩ := map_fst_foldl_updateKey Ini.Section.name
    (fun opened ↦ Content.table (lastValues opened.entries)) document.sections
    (document.general.foldl
      (fun known entry ↦ updateKey entry.key (fun _ ↦ Content.text entry.value) known) [])
  change (contents document).map Prod.fst = _ at keys
  rw [parts, List.map_append, List.map_cons] at keys
  have inside : content.1 ∈ back.map Prod.fst := List.mem_map_of_mem later
  rcases List.append_eq_append_iff.mp keys with ⟨between, general, headers⟩ | ⟨between, -, headers⟩
  · cases between with
    | nil =>
      obtain rfl : _ = added := headers
      exact named _ (List.mem_cons_of_mem _ inside)
    | cons first between =>
      -- The header would be a general key.
      obtain ⟨rfl, -⟩ := List.cons.inj headers
      have key : opened.name ∈ (document.general.foldl (fun known entry ↦
          updateKey entry.key (fun _ ↦ Content.text entry.value) known) []).map Prod.fst := by
        rw [general]
        exact List.mem_append_right _ List.mem_cons_self
      obtain ⟨kept, stands, own⟩ := List.mem_map.mp key
      obtain ⟨entry, known, rfl⟩ := (mem_foldl_updateKey stands).resolve_left List.not_mem_nil
      exact absurd own (new entry known)
  · exact named _ (headers ▸ List.mem_append_right _ (List.mem_cons_of_mem _ inside))

end Contents

/-! ### Paths without steps -/

namespace AccessPath

theorem eq_nil_of_readSteps? {fuel : ℕ} {text : List Char}
    (read : readSteps? fuel text = some []) : text = [] := by
  unfold readSteps? at read
  split at read
  · rfl
  · cases read
  · dsimp only at read
    split_ifs at read
    obtain ⟨steps, -, none⟩ := Option.map_eq_some_iff.mp read
    cases none
  · split at read
    · cases read
    · obtain ⟨index, -, further⟩ := Option.bind_eq_some_iff.mp read
      obtain ⟨steps, -, none⟩ := Option.map_eq_some_iff.mp further
      cases none
  · cases read

/-- A path without steps is the whole name. -/
theorem ofName_of_steps {name : String} (plain : (ofName name).steps = []) :
    ofName name = ⟨lowercased name, []⟩ := by
  unfold ofName at plain ⊢
  cases read : read? name.toList with
  | none => rfl
  | some path =>
    rw [read, Option.getD_some] at plain
    unfold read? at read
    dsimp only at read
    split_ifs at read
    obtain ⟨steps, after, rfl⟩ := Option.map_eq_some_iff.mp read
    obtain rfl : steps = [] := plain
    have whole : name.toList.takeWhile isIdentifierChar = name.toList := by
      have parts := @List.takeWhile_append_dropWhile _ isIdentifierChar name.toList
      rwa [eq_nil_of_readSteps? after, List.append_nil] at parts
    rw [whole]
    rfl

end AccessPath

end Settings

/-! ### Headers that are listed -/

namespace Ini.Document

open Settings

/-- What a header needs to be listed under its name in lower case. Its name is no path, and no name
that is a path goes on from it with a subscript; and no general key is left that is the same name,
because every such key is spelled like a header, or because the sections under the name have entries
and are not spelled like a general key themselves. -/
structure Lists (document : Document) (name : String) : Prop where
  plain : (AccessPath.ofName name).steps = []
  whole : ∀ other ∈ document.names, (AccessPath.ofName other).root = lowercased name →
    ∀ index steps, (AccessPath.ofName other).steps ≠ .place index :: steps
  kept : (∀ entry ∈ document.general, AccessPath.ofName entry.key = ⟨lowercased name, []⟩ →
      ∃ opened ∈ document.sections, opened.name = entry.key) ∨
    (∀ entry ∈ document.general, entry.key ≠ name) ∧
      ∀ opened ∈ document.sections, opened.name = name → opened.entries ≠ []

end Ini.Document

namespace Settings

section Listed

variable {document : Ini.Document} {opened : Ini.Section} {tree : Tree} {store : Store}

theorem lastValues_ne_nil {entries : List Ini.Entry} (some : entries ≠ []) :
    lastValues entries ≠ [] := by
  obtain ⟨front, entry, rfl⟩ := List.eq_nil_or_concat entries |>.resolve_left some
  rw [List.concat_eq_append, lastValues_concat]
  cases lastValues front with
  | nil => exact List.cons_ne_nil _ _
  | cons first known =>
    unfold updateKey
    split_ifs <;> exact List.cons_ne_nil _ _

/-- Contents leave a header its table unless they are texts of the same name. -/
theorem spares_of_lists (lists : document.Lists opened.name) {content : String × Content}
    (member : content ∈ contents document)
    (table : AccessPath.ofName content.1 = ⟨lowercased opened.name, []⟩ →
      ∀ value, content.2 ≠ .text value) :
    Tree.Spares (lowercased opened.name) content := by
  intro root
  have place := lists.whole content.1 (mem_names_of_mem_contents member) root
  obtain ⟨name, content⟩ := content
  dsimp only at root place table ⊢
  generalize AccessPath.ofName name = path at root place table ⊢
  obtain ⟨own, steps⟩ := path
  obtain rfl : own = lowercased opened.name := root
  cases steps with
  | nil =>
    cases content with
    | text value => exact absurd rfl (table rfl value)
    | table entries => trivial
  | cons step rest =>
    cases step with
    | child key => trivial
    | place index => exact absurd rfl (place index rest)

/-- The table of a listed header is in the tree. -/
theorem hasTable_of_lists (made : treeOf document = .ok tree) (member : opened ∈ document.sections)
    (lists : document.Lists opened.name) : tree.HasTable (lowercased opened.name) := by
  have plain := AccessPath.ofName_of_steps lists.plain
  obtain ⟨front, last, back, parts, listed, same, after⟩ := exists_contents_eq_append member
  have header {content : String × Content} (inside : content ∈ contents document)
      (named : ∃ other ∈ document.sections, other.name = content.1) :
      ∀ value, content.2 ≠ .text value := by
    rintro value text
    obtain ⟨other, declared, own⟩ := named
    obtain ⟨name, content⟩ := content
    cases text
    exact name_ne_of_mem_contents inside declared own
  have early : ∀ content ∈ front, content ∈ contents document := fun content inside ↦
    parts ▸ List.mem_append_left _ inside
  have late : ∀ content ∈ back, content ∈ contents document := fun content inside ↦
    parts ▸ List.mem_append_right _ (List.mem_cons_of_mem _ inside)
  unfold treeOf at made
  rcases lists.kept with spelled | ⟨new, filled⟩
  · -- Every general key that is the same name is spelled like a header, which has taken its place.
    have spares : ∀ content ∈ contents document,
        Tree.Spares (lowercased opened.name) content := by
      intro content inside
      refine spares_of_lists lists inside fun path ↦ ?_
      rcases mem_contents inside with ⟨entry, general, rfl⟩ | ⟨other, -, rfl⟩
      · exact header inside (spelled entry general path)
      · exact fun _ ↦ nofun
    rw [parts] at made
    exact Tree.hasTable_of_foldlM_assign plain made
      (.inr fun content inside ↦ spares content (early content inside))
      fun content inside ↦ spares content (late content inside)
  · rw [parts] at made
    exact Tree.hasTable_of_foldlM_assign plain made
      (.inl (lastValues_ne_nil (filled last listed same)))
      fun content inside ↦ spares_of_lists lists (late content inside) fun _ ↦
        header (late content inside) (after new content inside)

/-- Tables of a tree are listed. -/
theorem Store.mem_sections_of_hasTable {root : String} (hasTable : tree.HasTable root)
    (tables : store.sections.map StoredSection.table = tree.entries.filter (·.2.isTable)) :
    root ∈ store.accessor.sections := by
  obtain ⟨entries, found⟩ := hasTable
  have member : (root, Tree.table entries) ∈ store.sections.map StoredSection.table := by
    rw [tables]
    exact List.mem_filter.mpr ⟨Tree.mem_of_find? found, rfl⟩
  obtain ⟨stored, listed, own⟩ := List.mem_map.mp member
  exact List.mem_map.mpr ⟨stored, listed, congrArg Prod.fst own⟩

/-- Every key of the tree of a document is the first identifier of a name. -/
theorem exists_name_of_treeOf (made : treeOf document = .ok tree) :
    ∀ entry ∈ tree.entries, ∃ name ∈ document.names, (AccessPath.ofName name).root = entry.1 := by
  refine @foldlM_induction _ _ _ _ _ _ _ (fun tree : Tree ↦ ∀ entry ∈ tree.entries,
    ∃ name ∈ document.names, (AccessPath.ofName name).root = entry.1) made nofun
    fun earlier reached content inside named assigned ↦ ?_
  obtain ⟨value, -, rfl⟩ := Tree.assign_eq_ok_iff.mp assigned
  intro entry member
  rcases mem_updateKey member with rfl | old
  · exact ⟨content.1, mem_names_of_mem_contents inside, rfl⟩
  · exact named entry old

end Listed

/-- In the store of every text that loads, no two sections and no two keys of a section are the same
up to ASCII case, and every entry is found under its names in any case. Every section is listed
once, under the first identifier of a name of the document; and so is every header that needs no
more than `Ini.Document.Lists` says. -/
theorem Store.lists_and_finds_stored {text : String} {notices : List LoadNotice} {store : Store}
    (loaded : Store.load text = .ok ⟨notices, .ok store⟩) :
    ∃ document, Ini.Document.read text.toList = .ok document ∧
      (store.sections.Pairwise fun first second ↦
        sameIgnoringCase first.name second.name = false) ∧
      (∀ stored ∈ store.sections, stored.entries.Pairwise fun first second ↦
        sameIgnoringCase first.1 second.1 = false) ∧
      (∀ stored ∈ store.sections, ∀ entry ∈ stored.entries, ∀ sectionName key,
        sameIgnoringCase stored.name sectionName = true → sameIgnoringCase entry.1 key = true →
          store.accessor.getString sectionName key = .ok entry.2) ∧
      (∀ stored ∈ store.sections, store.accessor.sections.count stored.name = 1 ∧
        ∃ name ∈ document.names, (AccessPath.ofName name).root = stored.name) ∧
      ∀ opened ∈ document.sections, document.Lists opened.name →
        store.accessor.sections.count (lowercased opened.name) = 1 := by
  cases read : Ini.Document.read text.toList with
  | error error =>
    unfold Store.load Store.ofText at loaded
    rw [read] at loaded
    cases loaded
  | ok document =>
    rw [Store.load_of_read read] at loaded
    obtain ⟨tree, made, tables⟩ := exists_treeOf loaded
    have tidy := tidy_of_treeOf made
    have keyed := Store.keyed_tables tidy tables
    have names : store.accessor.sections.Nodup := by
      have nodup := keyed.nodup
      rwa [List.map_map] at nodup
    refine ⟨document, rfl, List.pairwise_map.mp keyed.pairwise, ?_, ?_, ?_, ?_⟩
    · exact fun stored member ↦ (Store.keyed_entries tidy tables member).pairwise
    · intro stored member entry listed sectionName key sameSection sameKey
      have found := Store.find?_of_mem tidy tables member listed sameSection sameKey
      show store.getString sectionName key = _
      unfold Store.getString
      rw [found]
    · intro stored member
      exact ⟨List.count_eq_one_of_mem names (List.mem_map_of_mem member),
        exists_name_of_treeOf made _ (Store.mem_entries_of_mem tables member)⟩
    · intro opened member lists
      exact List.count_eq_one_of_mem names
        (Store.mem_sections_of_hasTable (hasTable_of_lists made member lists) tables)

/-- A key before the first header and a header that is the same name, and a key in two spellings. -/
def spellingsText : String :=
  "log = on\n[processWatchdog]\nudp_port = 12345\n[Log]\nLevel = 1\nLEVEL = 2\n"

/-- The document of that text. -/
def spellingsDocument : Ini.Document where
  general := [⟨"log", "on"⟩]
  sections := [⟨watchdogSection, [⟨portKey, "12345"⟩]⟩,
    ⟨"Log", [⟨"Level", "1"⟩, ⟨"LEVEL", "2"⟩]⟩]

theorem Store.lists_and_finds_stored_spellings :
    ∃ notices store, Store.load spellingsText = .ok ⟨notices, .ok store⟩ ∧
      store.accessor.getString "LOG" "lEVEL" = .ok "2" ∧
      store.accessor.sections.count "log" = 1 := by
  have known : Ini.Document.read spellingsText.toList = .ok spellingsDocument := by decide +kernel
  have loaded : Store.load spellingsText = .ok ⟨[.found 2],
      .ok ⟨[⟨"log", [("level", "2")]⟩, ⟨"processwatchdog", [(portKey, "12345")]⟩]⟩⟩ :=
    (Store.load_of_read known).trans rfl
  obtain ⟨document, read, -, -, found, -, listed⟩ := Store.lists_and_finds_stored loaded
  cases known.symm.trans read
  have plain : ∀ name ∈ spellingsDocument.names, (AccessPath.ofName name).steps = [] := by decide
  have lists : spellingsDocument.Lists "Log" := by
    refine ⟨by decide, fun other member _ index steps ↦ ?_, .inr ⟨by decide, by decide⟩⟩
    rw [plain other member]
    exact (List.cons_ne_nil _ _).symm
  have lower : lowercased "Log" = "log" := by decide +kernel
  have once := listed _ (List.mem_cons_of_mem _ List.mem_cons_self) lists
  rw [lower] at once
  exact ⟨_, _, loaded, found _ List.mem_cons_self _ List.mem_cons_self _ _ (by decide) (by decide),
    once⟩

/-- A header with a dot, and one that goes before it. -/
def dottedText : String :=
  "[processWatchdog]\nudp_port = 12345\n[log.file]\nlevel = info\n[log]\nfile = on\n"

theorem Store.drops_section :
    ∃ document notices store, Ini.Document.read dottedText.toList = .ok document ∧
      document.sections.map Ini.Section.name = [watchdogSection, "log.file", "log"] ∧
      Store.load dottedText = .ok ⟨notices, .ok store⟩ ∧
      store.accessor.sections = ["processwatchdog", "log"] ∧
      store.accessor.getString "log.file" "level" = .error (.missingKey "log.file" "level") := by
  have read : Ini.Document.read dottedText.toList = .ok ⟨[],
      [⟨watchdogSection, [⟨portKey, "12345"⟩]⟩, ⟨"log.file", [⟨"level", "info"⟩]⟩,
        ⟨"log", [⟨"file", "on"⟩]⟩]⟩ := by
    decide +kernel
  have loaded : Store.load dottedText = .ok ⟨[.found 2],
      .ok ⟨[⟨"processwatchdog", [(portKey, "12345")]⟩, ⟨"log", [("file", "on")]⟩]⟩⟩ :=
    (Store.load_of_read read).trans rfl
  exact ⟨_, _, _, read, rfl, loaded, rfl, by decide⟩

end Settings

end Heartbeat
