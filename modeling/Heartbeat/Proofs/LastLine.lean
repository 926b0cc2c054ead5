import Heartbeat.Proofs.LoadingOutcome
import Mathlib.Data.List.Induction

/-!
# The last line for a key is the one that is found

Loading merges the lines of a document twice: sections and keys of one spelling first, and then
names that are the same in lower case. In a document of words (`Ini.Document.Worded`) a lookup finds
nothing but values of lines for its key, and the value of the last of them if the first merging loses
none (`Store.finds_last_line`). `Ini.Document.Keeps` says when it loses none: a header that comes back
in the same spelling takes the place of the earlier section with all its keys, so that even the port
of the watchdog can be lost (`Store.loses_line`).

The second merging loses nothing. The last kept value of a key is that of its last entry
(`Steady.getLast?_lastValues`), what stands under a name is what the contents of that name come to,
one after the other (`find?_of_foldlM_assign`, `find?_slotAfter_sections`), and the store finds what
stands in the tree (`Store.find?_eq`).
-/

set_option autoImplicit false
set_option relaxedAutoImplicit false

namespace Heartbeat

open Text

namespace Settings

/-! ### Entries under some names -/

section Entries

variable {α β : Type} {key : String} {change : Option α → α} {known : List (String × α)}

/-- A change of the last key is made at the end. -/
theorem getLast?_updateKey {old value : α} (nodup : (known.map Prod.fst).Nodup)
    (final : known.getLast? = some (key, old)) :
    (updateKey key (fun _ ↦ value) known).getLast? = some (key, value) := by
  obtain ⟨front, rfl⟩ := List.getLast?_eq_some_iff.mp final
  have new : ∀ entry ∈ front, entry.1 ≠ key := by
    rw [List.map_append] at nodup
    rintro entry member rfl
    exact List.disjoint_of_nodup_append nodup (List.mem_map_of_mem member) List.mem_cons_self
  have changed : updateKey key (fun _ ↦ value) (front ++ [(key, old)]) =
      front ++ [(key, value)] := by
    clear nodup final
    induction front with
    | nil => exact if_pos rfl
    | cons first front ih =>
      obtain ⟨different, others⟩ := List.forall_mem_cons.mp new
      rw [List.cons_append, updateKey, if_neg different, ih others]
      rfl
  rw [changed, List.getLast?_concat]

/-- Of the entries with names of some kind, those of other kinds change nothing. -/
theorem filter_updateKey (chosen : String → Bool) (key : String) (change : Option α → α)
    (known : List (String × α)) :
    (updateKey key change known).filter (chosen ·.1) =
      if chosen key = true then updateKey key change (known.filter (chosen ·.1))
      else known.filter (chosen ·.1) := by
  induction known with
  | nil => cases kind : chosen key <;> simp [updateKey, kind]
  | cons first known ih =>
    obtain ⟨name, value⟩ := first
    by_cases here : name = key
    · subst here
      cases kind : chosen name <;> simp [updateKey, kind]
    · rw [updateKey, if_neg here, List.filter_cons, List.filter_cons, ih]
      cases kind : chosen key <;> cases other : chosen name <;> simp [updateKey, here]

theorem filter_foldl_updateKey (chosen : String → Bool) (name : β → String) (value : β → α)
    (items : List β) (known : List (String × α)) :
    (items.foldl (fun known item ↦ updateKey (name item) (fun _ ↦ value item) known)
        known).filter (chosen ·.1) =
      (items.filter fun item ↦ chosen (name item)).foldl
        (fun known item ↦ updateKey (name item) (fun _ ↦ value item) known)
        (known.filter (chosen ·.1)) := by
  induction items generalizing known with
  | nil => rfl
  | cons first items ih =>
    rw [List.foldl_cons, ih, filter_updateKey, List.filter_cons]
    split_ifs with kind <;> rfl

theorem nodup_foldl_updateKey (name : β → String) (value : β → α) (items : List β) :
    ((items.foldl (fun known item ↦ updateKey (name item) (fun _ ↦ value item) known)
      []).map Prod.fst).Nodup :=
  @List.foldlRecOn _ _ (fun known : List (String × α) ↦ (known.map Prod.fst).Nodup) items _ []
    List.nodup_nil fun _ before _ _ ↦ nodup_updateKey before

end Entries

/-! ### The last value of a key -/

/-- Among the entries with keys of some kind, a key does not come back in a spelling after another
spelling. -/
def Steady (chosen : String → Bool) (entries : List Ini.Entry) : Prop :=
  ∀ first other last : Ini.Entry, [first, other, last].Sublist entries →
    chosen first.key = true → chosen other.key = true → first.key = last.key →
      other.key = first.key

section Values

variable {chosen : String → Bool} {entries : List Ini.Entry}

theorem Steady.congr {other : String → Bool} (steady : Steady chosen entries)
    (same : ∀ entry ∈ entries, other entry.key = chosen entry.key) : Steady other entries := by
  intro first middle last inside
  have early : first ∈ entries := inside.subset (by simp)
  have between : middle ∈ entries := inside.subset (by simp)
  rw [same first early, same middle between]
  exact steady first middle last inside

theorem lastValues_concat (entries : List Ini.Entry) (entry : Ini.Entry) :
    lastValues (entries ++ [entry]) =
      updateKey entry.key (fun _ ↦ entry.value) (lastValues entries) :=
  List.foldl_concat _ _ _ _

/-- A key that comes back in the same spelling is that of the last entry of its kind. -/
theorem Steady.key_eq {entry first last : Ini.Entry} (steady : Steady chosen (entries ++ [entry]))
    (member : first ∈ entries.filter (chosen ·.key)) (same : first.key = entry.key)
    (final : (entries.filter (chosen ·.key)).getLast? = some last) : last.key = entry.key := by
  obtain ⟨front, parts⟩ := List.getLast?_eq_some_iff.mp final
  have kind : ∀ other ∈ entries.filter (chosen ·.key), chosen other.key = true :=
    fun other listed ↦ (List.mem_filter.mp listed).2
  have listed : last ∈ entries.filter (chosen ·.key) := List.mem_of_getLast? final
  rw [parts] at member
  rcases List.mem_append.mp member with early | here
  · have inside : [first, last].Sublist entries := by
      refine List.Sublist.trans ?_ (List.filter_sublist (p := (chosen ·.key)))
      rw [parts]
      exact (List.singleton_sublist.mpr early).append (List.Sublist.refl [last])
    rw [← same]
    exact steady first last entry (inside.append (List.Sublist.refl [entry]))
      (kind first (parts ▸ member)) (kind last listed) same
  · rw [← List.mem_singleton.mp here, same]

/-- The last of the kept values of a kind is that of the last entry of the kind. -/
theorem Steady.getLast?_lastValues (steady : Steady chosen entries) :
    ((lastValues entries).filter (chosen ·.1)).getLast? =
      (entries.filter (chosen ·.key)).getLast?.map fun entry ↦ (entry.key, entry.value) := by
  induction entries using List.reverseRecOn with
  | nil => rfl
  | append_singleton entries entry ih =>
    have earlier := ih fun first other last inside ↦
      steady first other last (inside.trans (List.sublist_append_left _ _))
    rw [lastValues_concat, filter_updateKey, List.filter_append]
    cases kind : chosen entry.key with
    | false => simpa [kind] using earlier
    | true =>
      have final : ([entry].filter (chosen ·.key)) = [entry] := List.filter_cons_of_pos kind
      rw [if_pos rfl, final, List.getLast?_concat, Option.map_some]
      -- A key that is there keeps its place, which is the last one only because of the hypothesis.
      by_cases present : entry.key ∈ ((lastValues entries).filter (chosen ·.1)).map Prod.fst
      · obtain ⟨kept, listed, same⟩ := List.mem_map.mp present
        obtain ⟨first, member, rfl⟩ := mem_of_mem_lastValues (List.mem_filter.mp listed).1
        have among : first ∈ entries.filter (chosen ·.key) :=
          List.mem_filter.mpr ⟨member, (List.mem_filter.mp listed).2⟩
        obtain ⟨last, final⟩ := Option.ne_none_iff_exists'.mp
          (mt List.getLast?_eq_none_iff.mp (List.ne_nil_of_mem among))
        rw [final, Option.map_some, steady.key_eq among same final] at earlier
        exact getLast?_updateKey ((nodup_foldl_updateKey _ _ entries).sublist
          (List.filter_sublist.map Prod.fst)) earlier
      · rw [updateKey_eq_append _ present, List.getLast?_concat]

end Values

/-! ### Lookups in a tree -/

/-- The text that a tree is. -/
def Tree.text? : Tree → Option String
  | .text value => some value
  | _ => none

section Lookups

variable {α : Type} {known : List (String × α)} {tree : Tree} {store : Store}

/-- Among names in lower case a lookup up to ASCII case is one for the lower case. -/
theorem find?_sameIgnoringCase_eq_lookup (lower : ∀ name ∈ known.map Prod.fst, Lower name)
    (asked : String) : (known.find? (sameIgnoringCase ·.1 asked)).map Prod.snd =
      known.lookup (asciiLowered asked) := by
  induction known with
  | nil => rfl
  | cons first known ih =>
    obtain ⟨here, others⟩ := List.forall_mem_cons.mp lower
    rw [List.find?_cons, lookup_cons_eq_ite, ← ih others]
    cases same : sameIgnoringCase first.1 asked with
    | true => rw [if_pos ((sameIgnoringCase_of_lower_iff here).mp same).symm]; rfl
    | false =>
      rw [if_neg]
      rintro equal
      rw [(sameIgnoringCase_of_lower_iff here).mpr equal.symm] at same
      cases same

theorem lookup_map_snd {β : Type} (f : α → β) (key : String) (known : List (String × α)) :
    (known.map fun entry ↦ (entry.1, f entry.2)).lookup key = (known.lookup key).map f := by
  induction known with
  | nil => rfl
  | cons first known ih =>
    rw [List.map_cons, lookup_cons_eq_ite, lookup_cons_eq_ite, ih]
    split_ifs <;> rfl

/-- Among different keys those with a value of some kind are found if the value is of that kind. -/
theorem lookup_filter (chosen : α → Bool) (key : String) (nodup : (known.map Prod.fst).Nodup) :
    (known.filter (chosen ·.2)).lookup key = (known.lookup key).filter chosen := by
  induction known with
  | nil => rfl
  | cons first known ih =>
    obtain ⟨new, nodup⟩ := List.nodup_cons.mp nodup
    rw [List.filter_cons, lookup_cons_eq_ite]
    by_cases here : key = first.1
    · subst here
      have absent : known.lookup first.1 = none := List.lookup_eq_none_iff.mpr fun entry member ↦ by
        rw [bne_iff_ne]
        intro same
        exact new (same ▸ List.mem_map_of_mem member)
      rw [if_pos rfl]
      cases kind : chosen first.2 with
      | true => simp [lookup_cons_eq_ite, Option.filter, kind]
      | false => simp [ih nodup, absent, Option.filter, kind]
    · rw [if_neg here, ← ih nodup]
      split_ifs
      · rw [lookup_cons_eq_ite, if_neg here]
      · rfl

/-- A text that is found in a section is the one in its table. -/
theorem StoredSection.find?_eq {stored : StoredSection} (keyed : Keyed stored.table.2.entries)
    (key : String) : (stored.entries.find? (sameIgnoringCase ·.1 key)).map Prod.snd =
      (stored.table.2.find? (asciiLowered key)).bind Tree.text? := by
  have keys : ∀ key ∈ stored.entries.map Prod.fst, Lower key := by
    have listed := keyed.lower
    unfold table at listed
    dsimp only [Tree.entries] at listed
    rwa [List.map_map] at listed
  rw [find?_sameIgnoringCase_eq_lookup keys]
  show _ = ((stored.entries.map _).lookup _).bind _
  rw [lookup_map_snd]
  cases stored.entries.lookup (asciiLowered key) <;> rfl

/-- The section that is found is the table of the tree, if there is a table. -/
theorem Store.find?_section (tidy : tree.Tidy)
    (tables : store.sections.map StoredSection.table = tree.entries.filter (·.2.isTable))
    (sectionName : String) :
    (store.sections.find? (sameIgnoringCase ·.name sectionName)).map (·.table.2) =
      (tree.find? (asciiLowered sectionName)).filter Tree.isTable := by
  have names : ∀ name ∈ (store.sections.map StoredSection.table).map Prod.fst, Lower name := by
    rw [tables]
    exact fun name member ↦
      tidy.keyed.lower name ((List.filter_sublist.map Prod.fst).subset member)
  have located := find?_sameIgnoringCase_eq_lookup names sectionName
  rw [List.find?_map, Option.map_map, tables, lookup_filter _ _ tidy.keyed.nodup] at located
  exact located

/-- What the store finds is the text in the table of the tree, the names being asked for in lower
case. -/
theorem Store.find?_eq (tidy : tree.Tidy)
    (tables : store.sections.map StoredSection.table = tree.entries.filter (·.2.isTable))
    (sectionName key : String) : store.find? sectionName key =
      ((tree.find? (asciiLowered sectionName)).bind (·.find? (asciiLowered key))).bind
        Tree.text? := by
  have located := Store.find?_section tidy tables sectionName
  unfold find?
  cases own : store.sections.find? (sameIgnoringCase ·.name sectionName) with
  | none =>
    rw [own] at located
    cases present : tree.find? (asciiLowered sectionName) with
    | none => rfl
    | some value =>
      rw [present] at located
      -- What is there but is no table has no entries.
      cases value <;> first | rfl | cases located
  | some stored =>
    rw [own, Option.map_some] at located
    have listed : stored.table ∈ tree.entries :=
      List.mem_of_mem_filter (tables ▸ List.mem_map_of_mem (List.mem_of_find?_eq_some own))
    rw [Option.bind_some, StoredSection.find?_eq (tidy.inside _ listed),
      (Option.filter_eq_some_iff.mp located.symm).1, Option.bind_some]

end Lookups

/-! ### What stands under a name -/

section Slots

variable {slot : Option Tree} {contents : List (String × Content)} {key : String}

theorem Tree.find?_foldl_setKey (entries : List (String × String)) (tree : Tree) (key : String) :
    (entries.foldl (fun tree entry ↦ tree.setKey (lowercased entry.1) (.text entry.2))
        tree).find? key =
      ((entries.filter (lowercased ·.1 == key)).getLast?.map fun entry ↦ .text entry.2).or
        (tree.find? key) := by
  induction entries using List.reverseRecOn with
  | nil => rfl
  | append_singleton entries entry ih =>
    rw [List.foldl_concat, find?_setKey, ih, List.filter_append]
    by_cases here : key = lowercased entry.1
    · subst here
      simp
    · simp [here, Ne.symm here]

/-- A table that is merged into what is there goes before it. -/
theorem Tree.find?_merged_table (entries : List (String × String)) (slot : Option Tree)
    (key : String) : (merged (.table entries) slot).find? key =
      ((entries.filter (lowercased ·.1 == key)).getLast?.map fun entry ↦ .text entry.2).or
        (slot.bind (·.find? key)) := by
  unfold merged
  dsimp only
  rw [find?_foldl_setKey]
  cases slot <;> rfl

/-- What stands in a slot once some contents have been put there, one after the other. -/
def slotAfter (contents : List (String × Content)) (slot : Option Tree) : Option Tree :=
  contents.foldl (fun slot content ↦ some (Tree.merged content.2 slot)) slot

/-- A tree has under a name what the contents with that name in lower case come to. -/
theorem find?_of_foldlM_assign {start later : Tree}
    (paths : ∀ content ∈ contents, AccessPath.ofName content.1 = ⟨lowercased content.1, []⟩)
    (made : contents.foldlM
      (fun tree content ↦ tree.assign (AccessPath.ofName content.1) content.2) start = .ok later)
    (root : String) : later.find? root =
      slotAfter (contents.filter (lowercased ·.1 == root)) (start.find? root) := by
  induction contents generalizing start with
  | nil =>
    cases made
    rfl
  | cons first contents ih =>
    obtain ⟨path, others⟩ := List.forall_mem_cons.mp paths
    obtain ⟨reached, begun, further⟩ := bind_eq_ok_iff.mp made
    dsimp only at begun
    rw [path] at begun
    obtain ⟨value, put, rfl⟩ := Tree.assign_eq_ok_iff.mp begun
    cases put
    rw [ih others further, Tree.find?_setKey]
    by_cases here : root = lowercased first.1
    · subst here
      rw [if_pos rfl, List.filter_cons_of_pos (by simp)]
      rfl
    · rw [if_neg here, List.filter_cons_of_neg (by simpa using Ne.symm here)]

/-- Texts leave no table. -/
theorem slotAfter_texts (texts : ∀ content ∈ contents, ∃ name value, content = (name, .text value))
    (empty : slot.bind (·.find? key) = none) :
    (slotAfter contents slot).bind (·.find? key) = none :=
  @List.foldlRecOn _ _ (fun slot : Option Tree ↦ slot.bind (·.find? key) = none) contents _ slot
    empty fun slot _ content member ↦ by
      obtain ⟨name, value, rfl⟩ := texts content member
      rfl

/-- What is found in a slot was there before or comes from one of the contents. -/
theorem mem_of_find?_slotAfter {leaf : Tree}
    (found : (slotAfter contents slot).bind (·.find? key) = some leaf) :
    slot.bind (·.find? key) = some leaf ∨
      ∃ name entries, (name, Content.table entries) ∈ contents ∧
        ∃ entry ∈ entries, lowercased entry.1 = key ∧ leaf = .text entry.2 := by
  induction contents generalizing slot with
  | nil => exact .inl found
  | cons first contents ih =>
    obtain ⟨name, content⟩ := first
    rcases ih found with early | ⟨other, entries, member, entry, listed, same⟩
    · cases content with
      | text value => cases early
      | table entries =>
        rw [Option.bind_some, Tree.find?_merged_table] at early
        rcases Option.or_eq_some_iff.mp early with last | ⟨-, before⟩
        · obtain ⟨entry, final, rfl⟩ := Option.map_eq_some_iff.mp last
          obtain ⟨listed, same⟩ := List.mem_filter.mp (List.mem_of_getLast? final)
          exact .inr ⟨name, entries, List.mem_cons_self, entry, listed, beq_iff_eq.mp same, rfl⟩
        · exact .inl before
    · exact .inr ⟨other, entries, List.mem_cons_of_mem _ member, entry, listed, same⟩

/-- The sections of one name come to the last of their values of a key. -/
theorem find?_slotAfter_sections {sections : List Ini.Section}
    (steady : ∀ opened ∈ sections, Steady (lowercased · == key) opened.entries) :
    (slotAfter (sections.map fun opened ↦ (opened.name, .table (lastValues opened.entries)))
        slot).bind (·.find? key) =
      (((sections.flatMap Ini.Section.entries).filter (lowercased ·.key == key)).getLast?.map
        fun entry ↦ .text entry.value).or (slot.bind (·.find? key)) := by
  induction sections generalizing slot with
  | nil => rfl
  | cons first sections ih =>
    obtain ⟨here, others⟩ := List.forall_mem_cons.mp steady
    -- Later sections go before the first one, and that one before what was in the slot.
    show (slotAfter _ (some (Tree.merged _ slot))).bind _ = _
    rw [ih others, Option.bind_some, Tree.find?_merged_table, here.getLast?_lastValues,
      List.flatMap_cons, List.filter_append, List.getLast?_append, Option.map_or, Option.or_assoc,
      Option.map_map]
    rfl

end Slots

end Settings

/-! ### Lines -/

/-- The lower case of a word is that of a lookup if the two are the same up to case. -/
theorem Text.lowercased_beq_of_word {name : String}
    (word : ∀ c ∈ name.toList, isWordChar c = true) (asked : String) :
    (lowercased name == asciiLowered asked) = sameIgnoringCase name asked := by
  rw [Bool.eq_iff_iff, beq_iff_eq, sameIgnoringCase_iff_asciiLowered,
    lowercased_of_ascii fun c member ↦ ascii_of_isWordChar (word c member)]

namespace Ini.Document

open Settings

/-- The lines of a document that assign a key under a header, both up to ASCII case, in their
order. -/
def assigning (document : Document) (sectionName key : String) : List Entry :=
  ((document.sections.filter (sameIgnoringCase ·.name sectionName)).flatMap Section.entries).filter
    (sameIgnoringCase ·.key key)

/-- All names and all keys in sections are words. -/
structure Worded (document : Document) : Prop where
  names : ∀ name ∈ document.names, ∀ c ∈ name.toList, isWordChar c = true
  keys : ∀ opened ∈ document.sections, ∀ entry ∈ opened.entries,
    ∀ c ∈ entry.key.toList, isWordChar c = true

/-- No line for a key under a header is lost: its header is not repeated in the same spelling, and
is not spelled like a general entry, and in no section does the key come back in a spelling after
another one. -/
structure Keeps (document : Document) (sectionName key : String) : Prop where
  headers : ((document.sections.filter (sameIgnoringCase ·.name sectionName)).map
    Section.name).Nodup
  general : ∀ entry ∈ document.general, ∀ opened ∈ document.sections,
    sameIgnoringCase opened.name sectionName = true → entry.key ≠ opened.name
  spellings : ∀ opened ∈ document.sections, sameIgnoringCase opened.name sectionName = true →
    Steady (sameIgnoringCase · key) opened.entries

namespace Worded

variable {document : Document}

theorem of_all (names : document.names.all (·.toList.all isWordChar) = true)
    (keys : document.sections.all (·.entries.all (·.key.toList.all isWordChar)) = true) :
    document.Worded where
  names name member := List.all_eq_true.mp (List.all_eq_true.mp names name member)
  keys opened listed entry own := List.all_eq_true.mp
    (List.all_eq_true.mp (List.all_eq_true.mp keys opened listed) entry own)

theorem lowercased_name (words : document.Worded) {opened : Section}
    (member : opened ∈ document.sections) (asked : String) :
    (lowercased opened.name == asciiLowered asked) = sameIgnoringCase opened.name asked :=
  lowercased_beq_of_word (words.names _ (mem_names_of_section member)) asked

theorem filter_sections (words : document.Worded) (asked : String) :
    document.sections.filter (sameIgnoringCase ·.name asked) =
      document.sections.filter (lowercased ·.name == asciiLowered asked) :=
  List.filter_congr fun _ member ↦ (words.lowercased_name member asked).symm

/-- The lines for a key are those with its lower case, under headers with that of the section. -/
theorem assigning_eq (words : document.Worded) (sectionName key : String) :
    document.assigning sectionName key =
      ((document.sections.filter (lowercased ·.name == asciiLowered sectionName)).flatMap
        Section.entries).filter (lowercased ·.key == asciiLowered key) := by
  unfold assigning
  rw [words.filter_sections]
  refine List.filter_congr fun entry member ↦ ?_
  obtain ⟨opened, listed, own⟩ := List.mem_flatMap.mp member
  exact (lowercased_beq_of_word (words.keys opened (List.mem_of_mem_filter listed) entry own)
    key).symm

end Worded

end Ini.Document

namespace Settings

/-! ### The contents of a name -/

section Lines

variable {document : Ini.Document}

/-- Of the contents with names of some kind, those of general entries come first and those of the
sections after them in their order, if no name of that kind is repeated in the same spelling. -/
theorem exists_texts {chosen : String → Bool}
    (headers : ((document.sections.filter (chosen ·.name)).map Ini.Section.name).Nodup)
    (general : ∀ entry ∈ document.general, ∀ opened ∈ document.sections,
      chosen opened.name = true → entry.key ≠ opened.name) :
    ∃ texts, (∀ content ∈ texts,
        ∃ entry ∈ document.general, content = (entry.key, .text entry.value)) ∧
      (contents document).filter (chosen ·.1) =
        texts ++ (document.sections.filter (chosen ·.name)).map
          fun opened ↦ (opened.name, .table (lastValues opened.entries)) := by
  refine ⟨(document.general.foldl (fun known entry ↦
    updateKey entry.key (fun _ ↦ Content.text entry.value) known) []).filter (chosen ·.1),
    fun content member ↦ ?_, ?_⟩
  · exact (mem_foldl_updateKey (List.mem_of_mem_filter member)).resolve_left List.not_mem_nil
  · unfold contents
    dsimp only
    rw [filter_foldl_updateKey, foldl_updateKey]
    refine List.nodup_append'.mpr ⟨(nodup_foldl_updateKey _ _ document.general).sublist
      (List.filter_sublist.map Prod.fst), headers, fun name early late ↦ ?_⟩
    obtain ⟨content, member, rfl⟩ := List.mem_map.mp early
    obtain ⟨opened, listed, same⟩ := List.mem_map.mp late
    obtain ⟨entry, known, rfl⟩ :=
      (mem_foldl_updateKey (List.mem_of_mem_filter member)).resolve_left List.not_mem_nil
    obtain ⟨inside, kind⟩ := List.mem_filter.mp listed
    exact general entry known opened inside kind same.symm

end Lines

/-! ### Documents of words -/

/-- A word is one identifier. -/
theorem AccessPath.ofName_of_word {name : String} (word : ∀ c ∈ name.toList, isWordChar c = true) :
    AccessPath.ofName name = ⟨lowercased name, []⟩ := by
  by_cases empty : name = ""
  · subst empty
    rfl
  · refine ofName_of_identifier empty fun c member ↦ ?_
    unfold isIdentifierChar
    rw [Bool.or_eq_true]
    exact .inl (word c member)

section Words

variable {document : Ini.Document} {tree : Tree} {store : Store} {sectionName key : String}

namespace Store

/-- What the store of a document of words finds stands in the slot of the contents of a name. -/
theorem find?_eq_slotAfter (words : document.Worded) (made : treeOf document = .ok tree)
    (tables : store.sections.map StoredSection.table = tree.entries.filter (·.2.isTable))
    (sectionName key : String) : store.find? sectionName key =
      ((slotAfter ((contents document).filter (lowercased ·.1 == asciiLowered sectionName))
        none).bind (·.find? (asciiLowered key))).bind Tree.text? := by
  have paths : ∀ content ∈ contents document,
      AccessPath.ofName content.1 = ⟨lowercased content.1, []⟩ := fun content member ↦
    AccessPath.ofName_of_word (words.names _ (mem_names_of_mem_contents member))
  rw [Store.find?_eq (tidy_of_treeOf made) tables, find?_of_foldlM_assign paths made]
  rfl

/-- What is found for a key is the value of one of its lines. -/
theorem exists_of_find? (words : document.Worded) (made : treeOf document = .ok tree)
    (tables : store.sections.map StoredSection.table = tree.entries.filter (·.2.isTable))
    {value : String} (found : store.find? sectionName key = some value) :
    ∃ entry ∈ document.assigning sectionName key, entry.value = value := by
  rw [find?_eq_slotAfter words made tables] at found
  obtain ⟨leaf, slot, text⟩ := Option.bind_eq_some_iff.mp found
  obtain ⟨name, entries, member, kept, listed, same, rfl⟩ :=
    (mem_of_find?_slotAfter slot).resolve_left nofun
  obtain ⟨inside, kind⟩ := List.mem_filter.mp member
  obtain ⟨opened, declared, content⟩ := (mem_contents inside).resolve_left nofun
  obtain ⟨rfl, rfl⟩ : name = opened.name ∧ entries = lastValues opened.entries := by
    simpa using content
  obtain ⟨entry, assigned, rfl⟩ := mem_of_mem_lastValues listed
  cases text
  refine ⟨entry, ?_, rfl⟩
  rw [words.assigning_eq]
  exact List.mem_filter.mpr ⟨List.mem_flatMap.mpr
    ⟨opened, List.mem_filter.mpr ⟨declared, kind⟩, assigned⟩, beq_iff_eq.mpr same⟩

/-- If no line for a key is lost, the store finds the value of the last one. -/
theorem find?_eq_last (words : document.Worded) (made : treeOf document = .ok tree)
    (tables : store.sections.map StoredSection.table = tree.entries.filter (·.2.isTable))
    (keeps : document.Keeps sectionName key) :
    store.find? sectionName key = (document.assigning sectionName key).getLast?.map
      Ini.Entry.value := by
  have headers := keeps.headers
  rw [words.filter_sections] at headers
  obtain ⟨texts, general, parts⟩ := @exists_texts document (lowercased · == asciiLowered sectionName)
    headers fun entry known opened listed kind ↦
      keeps.general entry known opened listed ((words.lowercased_name listed _).symm.trans kind)
  have plain : ∀ content ∈ texts, ∃ name value, content = (name, Content.text value) :=
    fun content member ↦ (general content member).elim fun entry own ↦ ⟨_, _, own.2⟩
  have steady : ∀ opened ∈ document.sections.filter
      (lowercased ·.name == asciiLowered sectionName),
      Steady (lowercased · == asciiLowered key) opened.entries := by
    intro opened member
    obtain ⟨listed, kind⟩ := List.mem_filter.mp member
    exact (keeps.spellings opened listed
      ((words.lowercased_name listed _).symm.trans kind)).congr
        fun entry own ↦ lowercased_beq_of_word (words.keys opened listed entry own) key
  rw [find?_eq_slotAfter words made tables, parts, slotAfter, List.foldl_append]
  show ((slotAfter _ (slotAfter texts none)).bind _).bind _ = _
  rw [find?_slotAfter_sections steady, slotAfter_texts plain rfl, Option.or_none,
    words.assigning_eq]
  cases (((document.sections.filter (lowercased ·.name == asciiLowered sectionName)).flatMap
    Ini.Section.entries).filter (lowercased ·.key == asciiLowered key)).getLast? <;> rfl

/-- A document of words is stored: its names lead nowhere. -/
theorem exists_ofDocument_of_worded (words : document.Worded) :
    ∃ notices store, ofDocument document = .ok ⟨notices, .ok store⟩ := by
  rcases ofDocument_cases document with stored | ⟨nests, -⟩ | ⟨⟨name, member, step, taken, -⟩, -⟩
  · exact stored
  · rcases nests with ⟨opened, member, inside⟩ | ⟨entry, member, deeper⟩
    · have word := words.names _ (Ini.Document.mem_names_of_section member)
      rw [AccessPath.ofName_of_word word] at inside
      cases inside
    · have word := words.names _ (Ini.Document.mem_names_of_general member)
      rw [AccessPath.ofName_of_word word] at deeper
      cases deeper
  · rw [AccessPath.ofName_of_word (words.names name member)] at taken
    cases taken

end Store

end Words

/-- A document of words loads. What is found for a key is always the value of one of the lines that
assign it under a header of the section, all names being compared up to ASCII case, and it is that
of the last of these lines if no such line is lost. -/
theorem Store.finds_last_line {text : String} {document : Ini.Document}
    (read : Ini.Document.read text.toList = .ok document) (words : document.Worded) :
    ∃ notices store, Store.load text = .ok ⟨notices, .ok store⟩ ∧
      (∀ sectionName key value, store.accessor.getString sectionName key = .ok value →
        ∃ entry ∈ document.assigning sectionName key, entry.value = value) ∧
      ∀ sectionName key, document.Keeps sectionName key →
        store.accessor.getString sectionName key =
          match (document.assigning sectionName key).getLast? with
          | some entry => .ok entry.value
          | none => .error (.missingKey sectionName key) := by
  obtain ⟨notices, store, stored⟩ := exists_ofDocument_of_worded words
  obtain ⟨tree, made, tables⟩ := exists_treeOf stored
  refine ⟨notices, store, (Store.load_of_read read).trans stored, ?_, ?_⟩
  · intro sectionName key value found
    refine exists_of_find? words made tables ?_
    change store.getString sectionName key = .ok value at found
    unfold getString at found
    cases there : store.find? sectionName key with
    | none =>
      rw [there] at found
      cases found
    | some other =>
      rw [there] at found
      cases found
      rfl
  · intro sectionName key keeps
    have found := find?_eq_last words made tables keeps
    show store.getString sectionName key = _
    unfold getString
    rw [found]
    cases (document.assigning sectionName key).getLast? <;> rfl

/-- The watchdog's section in two parts, with headers that differ in case. -/
def partedText : String :=
  "[processWatchdog]\nudp_port = 1\n1_name = a\n[PROCESSWATCHDOG]\nUDP_PORT = 12345\n"

/-- The document of that text. -/
def partedDocument : Ini.Document where
  general := []
  sections := [⟨watchdogSection, [⟨portKey, "1"⟩, ⟨"1_name", "a"⟩]⟩,
    ⟨"PROCESSWATCHDOG", [⟨"UDP_PORT", "12345"⟩]⟩]

theorem Store.finds_last_line_parted :
    Ini.Document.read partedText.toList = .ok partedDocument ∧ partedDocument.Worded ∧
      partedDocument.Keeps watchdogSection portKey ∧
      ∃ notices store, Store.load partedText = .ok ⟨notices, .ok store⟩ ∧
        store.accessor.getString watchdogSection portKey = .ok "12345" := by
  have read : Ini.Document.read partedText.toList = .ok partedDocument := by decide +kernel
  have words : partedDocument.Worded := .of_all (by decide) (by decide)
  -- No section has three entries, so no key comes back after another spelling.
  have keeps : partedDocument.Keeps watchdogSection portKey := by
    refine ⟨by decide, nofun, List.forall_mem_cons.mpr ⟨?_, List.forall_mem_singleton.mpr ?_⟩⟩
    · exact fun _ first other last inside ↦ absurd inside.length_le (by simp)
    · exact fun _ first other last inside ↦ absurd inside.length_le (by simp)
  obtain ⟨notices, store, loaded, -, found⟩ := Store.finds_last_line read words
  exact ⟨read, words, keeps, notices, store, loaded, found _ _ keeps⟩

/-- The watchdog's section in two parts, with the same header. -/
def repeatedText : String :=
  "[processWatchdog]\nudp_port = 12345\n[processWatchdog]\n1_name = alpha\n"

theorem Store.loses_line :
    ∃ document notices store, Ini.Document.read repeatedText.toList = .ok document ∧
      document.Worded ∧ Store.load repeatedText = .ok ⟨notices, .ok store⟩ ∧
      document.assigning watchdogSection portKey = [⟨portKey, "12345"⟩] ∧
      store.accessor.getString watchdogSection portKey =
        .error (.missingKey watchdogSection portKey) := by
  have read : Ini.Document.read repeatedText.toList = .ok ⟨[],
      [⟨watchdogSection, [⟨portKey, "12345"⟩]⟩, ⟨watchdogSection, [⟨"1_name", "alpha"⟩]⟩]⟩ := by
    decide +kernel
  exact ⟨_, [.found 1], ⟨[⟨"processwatchdog", [("1_name", "alpha")]⟩]⟩, read,
    .of_all (by decide) (by decide), rfl, by decide, by decide⟩

end Settings

end Heartbeat
