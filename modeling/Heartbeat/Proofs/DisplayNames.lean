import Heartbeat.Proofs.ApplicationSections
import Heartbeat.Proofs.LastLine
import Heartbeat.Proofs.LayoutAgreement

/-!
# Instances that sections declare

A document that declares the watchdog and then an application section for each instance comes to
these instances, each in its place, with the name in its header up to ASCII case and the times of
its own section (`resolves_declared`). The names have to differ in more than case, because sections
with names that differ in case alone are one section (`merges_workers`). Entries before the first
header may be there (`Ini.Document.Declares`): whatever their keys lead to stands in the tree before
the sections and is no application section (`Tree.Aside`).

Keys may be repeated in a section in several spellings, and `Ini.Section.value?` is the value that
is found then. It is that of the last line, unless a spelling comes back after another one
(`Ini.Section.value?_eq_last`).
-/

set_option autoImplicit false
set_option relaxedAutoImplicit false

namespace Heartbeat

open Settings Text

/-! ### What a section has -/

namespace Ini.Section

/-- The text that a section has under a key, up to case: each spelling of the key has the value of
its last line, and the spelling whose first line comes last counts. -/
def value? (opened : Section) (key : String) : Option String :=
  ((lastValues opened.entries).filter (lowercased ·.1 == asciiLowered key)).getLast?.map Prod.snd

/-- The integer that a section has under a key. -/
def integer? (opened : Section) (key : String) : Option Int64 :=
  (opened.value? key).bind fun value ↦ readInt64? (trim value.toList)

/-- If no key comes back in a spelling after another one, the text is that of the last line. -/
theorem value?_eq_last {opened : Section} {key : String}
    (steady : Steady (lowercased · == asciiLowered key) opened.entries) :
    opened.value? key =
      (opened.entries.filter (lowercased ·.key == asciiLowered key)).getLast?.map Entry.value := by
  unfold value?
  rw [steady.getLast?_lastValues, Option.map_map]
  rfl

end Ini.Section

/-! ### Documents that declare instances -/

/-- An application section: the name of an instance, which is a word, and the entries. -/
structure DeclaredInstance where
  name : String
  entries : List Ini.Entry
  named : name ≠ ""
  word : ∀ c ∈ name.toList, isWordChar c = true

namespace DeclaredInstance

/-- The section of an instance. -/
def opened (declared : DeclaredInstance) : Ini.Section :=
  ⟨applicationMark ++ declared.name, declared.entries⟩

theorem ofName_opened (declared : DeclaredInstance) :
    AccessPath.ofName declared.opened.name = ⟨lowercased declared.opened.name, []⟩ :=
  @AccessPath.ofName_of_mark _ ['a', 'p', 'p'] _ ':' String.toList_append
    (List.all_eq_true.mp (by decide)) (by decide) (by decide)

/-- The name of a section in lower case is the mark and the name of the instance in lower case. -/
theorem lowercased_opened (declared : DeclaredInstance) :
    lowercased declared.opened.name = applicationMark ++ asciiLowered declared.name := by
  have ascii : ∀ c ∈ declared.opened.name.toList, c.toNat < 128 := by
    show ∀ c ∈ (applicationMark ++ declared.name).toList, c.toNat < 128
    rw [String.toList_append]
    exact List.forall_mem_append.mpr
      ⟨ascii_applicationMark, fun c member ↦ ascii_of_isWordChar (declared.word c member)⟩
  rw [lowercased_of_ascii ascii]
  show asciiLowered (applicationMark ++ declared.name) = _
  unfold asciiLowered
  rw [String.toList_append, List.map_append, String.ofList_append]
  exact congrArg (· ++ _) (by decide)

theorem isApplication_lowercased (declared : DeclaredInstance) :
    isApplication (lowercased declared.opened.name) = true ∧
      applicationName (lowercased declared.opened.name) = asciiLowered declared.name := by
  rw [lowercased_opened]
  exact isApplication_append (by decide)

/-- The name of an instance in lower case is chosen as it stands. -/
theorem chooseName_lowered (declared : DeclaredInstance) (index : UInt32) :
    chooseName index (some (asciiLowered declared.name)) = (asciiLowered declared.name, []) := by
  have solid : ∀ c ∈ (asciiLowered declared.name).toList, isBlank c = false := by
    unfold asciiLowered
    rw [String.toList_ofList]
    refine List.forall_mem_map.mpr fun c member ↦ ?_
    exact @forall_wordChar (fun c ↦ isBlank (asciiLower c) = false) (by decide) c
      (declared.word c member)
  have named : asciiLowered declared.name ≠ "" := by
    intro empty
    have chars := congrArg String.toList empty
    unfold asciiLowered at chars
    rw [String.toList_ofList] at chars
    exact declared.named (String.toList_eq_nil_iff.mp (List.map_eq_nil_iff.mp chars))
  unfold chooseName trimmed
  rw [Option.getD_some, trim_of_unpadded (.of_forall solid), String.ofList_toList, if_neg named]

end DeclaredInstance

/-- A document declares the watchdog and then instances with names that differ in more than case.
Its general entries stay out of these sections, and no name keeps it from loading. -/
structure Ini.Document.Declares (document : Document) (watchdog : List Entry)
    (instances : List DeclaredInstance) : Prop where
  sections : document.sections =
    ⟨watchdogSection, watchdog⟩ :: instances.map DeclaredInstance.opened
  different : instances.Pairwise fun first second ↦
    sameIgnoringCase first.name second.name = false
  general : ∀ entry ∈ document.general, ∀ opened ∈ document.sections,
    (AccessPath.ofName entry.key).root ≠ lowercased opened.name
  shallow : ¬ document.Nests
  reachable : ¬ document.Overreaches

namespace Ini.Document.Declares

variable {document : Document} {watchdog : List Entry} {instances : List DeclaredInstance}

/-- The names of all sections are identifiers. -/
theorem ofName_section (declares : document.Declares watchdog instances) {opened : Section}
    (member : opened ∈ document.sections) :
    AccessPath.ofName opened.name = ⟨lowercased opened.name, []⟩ := by
  rw [declares.sections] at member
  rcases List.mem_cons.mp member with rfl | inside
  · exact ofName_watchdogSection
  · obtain ⟨declared, -, rfl⟩ := List.mem_map.mp inside
    exact declared.ofName_opened

/-- The names of the sections are told apart. -/
theorem nodup_sections (declares : document.Declares watchdog instances) :
    (document.sections.map fun opened ↦ lowercased opened.name).Nodup := by
  rw [declares.sections, List.map_cons, List.map_map, List.nodup_cons]
  constructor
  · intro listed
    obtain ⟨declared, -, same⟩ := List.mem_map.mp listed
    have marked := declared.isApplication_lowercased.1
    rw [Function.comp_apply] at same
    rw [same, lowercased_watchdogSection] at marked
    exact absurd marked (by decide)
  · refine List.pairwise_map.mpr (declares.different.imp fun {first second} other same ↦ ?_)
    rw [Function.comp_apply, Function.comp_apply, first.lowercased_opened,
      second.lowercased_opened, String.append_right_inj] at same
    rw [sameIgnoringCase_iff_asciiLowered.mpr same] at other
    cases other

/-- The contents are those of the general entries and then the sections. -/
theorem exists_contents (declares : document.Declares watchdog instances) :
    ∃ texts, (∀ content ∈ texts,
        ∃ entry ∈ document.general, content = (entry.key, Content.text entry.value)) ∧
      contents document = texts ++ document.sections.map
        fun opened ↦ (opened.name, .table (lastValues opened.entries)) := by
  have names : (document.sections.map Section.name).Nodup := by
    have lowered := declares.nodup_sections
    rw [← Function.comp_def, ← List.map_map] at lowered
    exact lowered.of_map
  have parts := @exists_texts document (fun _ ↦ true) (by rwa [List.filter_true])
    fun entry known opened member _ same ↦ declares.general entry known opened member
      (by rw [same, declares.ofName_section member])
  rwa [List.filter_true, List.filter_true] at parts

end Ini.Document.Declares

/-! ### The tree of such a document -/

namespace Settings

/-- The name of an application section has a colon. -/
theorem colon_mem_of_isApplication {sectionName : String}
    (marked : isApplication sectionName = true) : ':' ∈ sectionName.toList.map asciiLower := by
  obtain ⟨mark, parts, same⟩ := exists_mark marked
  rw [parts, String.toList_append, List.map_append, sameIgnoringCase_iff.mp same]
  exact List.mem_append_left _ (by decide)

namespace AccessPath

/-- An identifier has no colon, in lower case either. -/
theorem asciiLower_ne_colon {c : Char} (identifier : isIdentifierChar c = true) :
    c.toNat < 128 ∧ asciiLower (asciiLower c) ≠ ':' := by
  have cases : isWordChar c = true ∨ c = ' ' := by
    simpa [isIdentifierChar, isWordChar] using identifier
  rcases cases with word | rfl
  · exact ⟨ascii_of_isWordChar word,
      @forall_wordChar (fun c ↦ asciiLower (asciiLower c) ≠ ':') (by decide) c word⟩
  · decide

/-- The first identifier of a path with steps is made of characters of identifiers. -/
theorem root_ne_colon {name : String} (stepped : (ofName name).steps ≠ []) :
    ∀ c ∈ (ofName name).root.toList, asciiLower c ≠ ':' := by
  unfold ofName at stepped ⊢
  cases read : read? name.toList with
  | none =>
    rw [read] at stepped
    exact absurd rfl stepped
  | some path =>
    unfold read? at read
    dsimp only at read
    split_ifs at read
    obtain ⟨steps, -, rfl⟩ := Option.map_eq_some_iff.mp read
    have plain : ∀ c ∈ name.toList.takeWhile isIdentifierChar,
        c.toNat < 128 ∧ asciiLower (asciiLower c) ≠ ':' :=
      fun c member ↦ asciiLower_ne_colon (List.mem_takeWhile_imp member)
    rw [Option.getD_some, lowercase_eq_map fun c member ↦ (plain c member).1, String.toList_ofList]
    exact List.forall_mem_map.mpr fun c member ↦ (plain c member).2

/-- A path with steps does not begin with the name of an application section. -/
theorem isApplication_root {name : String} (stepped : (ofName name).steps ≠ []) :
    isApplication (ofName name).root = false := by
  rw [← Bool.not_eq_true]
  intro marked
  obtain ⟨c, member, lower⟩ := List.mem_map.mp (colon_mem_of_isApplication marked)
  exact root_ne_colon stepped c member lower

end AccessPath

namespace Tree

/-- Where a text was put, there is a table only if the steps lead into it. -/
theorem Assigned.steps_ne_nil {text : String} {steps : List PathStep} {present : Option Tree}
    {value : Tree} (assigned : Assigned (.text text) steps present value)
    (table : value.isTable = true) : steps ≠ [] := by
  cases assigned with
  | merged => cases table
  | child | list => exact List.cons_ne_nil _ _

/-- A tree of general entries: it has a table at the top, and no application sections. -/
structure Aside (document : Ini.Document) (tree : Tree) : Prop where
  table : tree = .table tree.entries
  tidy : tree.Tidy
  roots : ∀ entry ∈ tree.entries, ∃ general ∈ document.general,
    (AccessPath.ofName general.key).root = entry.1
  tables : ∀ entry ∈ tree.entries, entry.2.isTable = true → isApplication entry.1 = false

theorem Aside.assign {document : Ini.Document} {tree later : Tree} (aside : tree.Aside document)
    {entry : Ini.Entry} (member : entry ∈ document.general)
    (made : tree.assign (AccessPath.ofName entry.key) (.text entry.value) = .ok later) :
    later.Aside document := by
  have tidy := aside.tidy.assign made
  obtain ⟨value, put, rfl⟩ := assign_eq_ok_iff.mp made
  refine ⟨rfl, tidy, fun new listed ↦ ?_, fun new listed ↦ ?_⟩
  · rcases mem_updateKey listed with rfl | old
    · exact ⟨entry, member, rfl⟩
    · exact aside.roots new old
  · rcases mem_updateKey listed with rfl | old
    · exact fun table ↦ AccessPath.isApplication_root
        ((assigned_of_assignFrom put).steps_ne_nil table)
    · exact aside.tables new old

end Tree

/-- What is stored for a section of a document that is alone under its name. -/
def ownTable (opened : Ini.Section) : String × Tree :=
  (lowercased opened.name, Tree.merged (.table (lastValues opened.entries)) none)

theorem isTable_ownTable (opened : Ini.Section) : (ownTable opened).2.isTable = true :=
  @List.foldlRecOn _ _ (fun tree : Tree ↦ tree.isTable = true) (lastValues opened.entries) _ _ rfl
    fun _ _ _ _ ↦ rfl

variable {document : Ini.Document} {watchdog : List Ini.Entry} {instances : List DeclaredInstance}
  {tree : Tree}

/-- The tree of the document is one of general entries with the tables of its sections at the
end. -/
theorem exists_aside (declares : document.Declares watchdog instances)
    (made : treeOf document = .ok tree) : ∃ start : Tree, start.Aside document ∧
      tree.entries = start.entries ++ document.sections.map ownTable := by
  obtain ⟨texts, general, parts⟩ := declares.exists_contents
  unfold treeOf at made
  rw [parts, List.foldlM_append] at made
  obtain ⟨start, begun, further⟩ := bind_eq_ok_iff.mp made
  have aside : start.Aside document := by
    refine foldlM_induction begun ⟨rfl, ⟨.nil, nofun⟩, nofun, nofun⟩ ?_
    intro earlier reached content member aside assigned
    obtain ⟨entry, listed, rfl⟩ := general content member
    exact aside.assign listed assigned
  -- No general entry leads to the name of a section, so every section is new to the tree.
  have nodup : (start.entries.map Prod.fst ++
      document.sections.map fun opened ↦ lowercased opened.name).Nodup := by
    refine List.nodup_append'.mpr ⟨aside.tidy.keyed.nodup, declares.nodup_sections, ?_⟩
    intro name early late
    obtain ⟨entry, member, rfl⟩ := List.mem_map.mp early
    obtain ⟨opened, listed, same⟩ := List.mem_map.mp late
    obtain ⟨other, among, root⟩ := aside.roots entry member
    exact declares.general other among opened listed (root.trans same.symm)
  rw [aside.table, Tree.foldlM_assign_new Ini.Section.name _
    (fun _ ↦ declares.ofName_section) nodup] at further
  cases further
  exact ⟨start, aside, rfl⟩

/-! ### The store of such a document -/

namespace Store

variable {store : Store}

/-- The application sections are those of the instances, in their order. -/
theorem applicationSections_eq (declares : document.Declares watchdog instances)
    (made : treeOf document = .ok tree)
    (tables : store.sections.map StoredSection.table = tree.entries.filter (·.2.isTable)) :
    applicationSections store.accessor =
      instances.map fun declared ↦ lowercased declared.opened.name := by
  obtain ⟨start, aside, parts⟩ := exists_aside declares made
  have own : (document.sections.map ownTable).filter (·.2.isTable) =
      document.sections.map ownTable :=
    List.filter_eq_self.mpr (List.forall_mem_map.mpr fun opened _ ↦ isTable_ownTable opened)
  have names : store.accessor.sections = (start.entries.filter (·.2.isTable)).map Prod.fst ++
      document.sections.map fun opened ↦ lowercased opened.name := by
    have listed := congrArg (List.map Prod.fst) tables
    rw [parts, List.filter_append, own, List.map_append, List.map_map, List.map_map] at listed
    exact listed
  have none : ((start.entries.filter (·.2.isTable)).map Prod.fst).filter isApplication = [] := by
    refine List.filter_eq_nil_iff.mpr (List.forall_mem_map.mpr fun entry member ↦ ?_)
    obtain ⟨inside, table⟩ := List.mem_filter.mp member
    rw [aside.tables entry inside table]
    exact Bool.false_ne_true
  unfold applicationSections
  rw [names, List.filter_append, none, List.nil_append, declares.sections, List.map_cons,
    lowercased_watchdogSection, List.filter_cons_of_neg (by decide), List.map_map]
  exact List.filter_eq_self.mpr
    (List.forall_mem_map.mpr fun declared _ ↦ declared.isApplication_lowercased.1)

/-- What the store finds under the name of a section is what the section itself has. -/
theorem find?_of_section (declares : document.Declares watchdog instances)
    (made : treeOf document = .ok tree)
    (tables : store.sections.map StoredSection.table = tree.entries.filter (·.2.isTable))
    {opened : Ini.Section} (member : opened ∈ document.sections) {sectionName : String}
    (same : asciiLowered sectionName = lowercased opened.name) (key : String) :
    store.find? sectionName key = opened.value? key := by
  obtain ⟨start, aside, parts⟩ := exists_aside declares made
  have tidy : tree.Tidy := tidy_of_treeOf made
  have present : tree.find? (lowercased opened.name) = some (ownTable opened).2 := by
    refine lookup_of_mem tidy.keyed.nodup ?_
    rw [parts]
    exact List.mem_append_right _ (List.mem_map_of_mem member)
  rw [Store.find?_eq tidy tables, same, present, Option.bind_some, ownTable,
    Tree.find?_merged_table]
  unfold Ini.Section.value?
  cases ((lastValues opened.entries).filter (lowercased ·.1 == asciiLowered key)).getLast? <;> rfl

/-- An integer is read from what the store finds. -/
theorem getInt_eq_ok {sectionName key : String} {opened : Ini.Section} {value : Int64}
    (found : store.find? sectionName key = opened.value? key)
    (integer : opened.integer? key = some value) :
    store.accessor.getInt sectionName key = .ok value := by
  obtain ⟨text, there, number⟩ := Option.bind_eq_some_iff.mp integer
  show store.getInt sectionName key = _
  unfold getInt
  rw [found, there]
  dsimp only
  rw [number]

/-- A time is the integer that the section has, or zero with a warning. -/
theorem optionalInt_eq_integer? {sectionName key : String} {opened : Ini.Section}
    (found : store.find? sectionName key = opened.value? key) :
    (optionalInt store.accessor sectionName key).1 = (opened.integer? key).getD 0 ∧
      ((optionalInt store.accessor sectionName key).2 = [] ↔
        (opened.integer? key).isSome = true) := by
  have answer : store.accessor.getInt sectionName key = store.getInt sectionName key := rfl
  unfold optionalInt Ini.Section.integer?
  rw [answer, getInt, found]
  cases opened.value? key with
  | none => simp
  | some text => cases number : readInt64? (trim text.toList) <;> simp [number]

end Store

end Settings

/-! ### The instances -/

/-- An instance as it was declared: with the name in the header, up to ASCII case, and with the
times of its own section, those that are missing or no integers being zero with a warning. A name
without capitals is kept to the letter. -/
structure Resolved.AsDeclared (declared : DeclaredInstance) (index : UInt32) (port : UInt16)
    (resolved : Resolved) : Prop where
  index : resolved.config.index = index
  port : resolved.config.port = port
  layout : resolved.layout = .sections
  name : sameIgnoringCase resolved.config.name declared.name = true
  lowerName : Lower declared.name → resolved.config.name = declared.name
  delay : resolved.config.delay = (declared.opened.integer? delayKey).getD 0
  interval : resolved.config.interval = (declared.opened.integer? intervalKey).getD 0
  warnings : resolved.warnings = [] ↔ (declared.opened.integer? delayKey).isSome = true ∧
    (declared.opened.integer? intervalKey).isSome = true

/-- What is read from the section of an instance is what was declared. -/
theorem DeclaredInstance.exists_asDeclared {declared : DeclaredInstance} {store : Store}
    {index : UInt32} {port : UInt16} {sectionName : String}
    (required : readPort store.accessor = .ok port)
    (own : applicationSection? store.accessor index = some sectionName)
    (named : applicationName sectionName = asciiLowered declared.name)
    (found : ∀ key, store.find? sectionName key = declared.opened.value? key) :
    ∃ resolved, resolve store.accessor index .sections = .ok resolved ∧
      Resolved.AsDeclared declared index port resolved := by
  have delay := Store.optionalInt_eq_integer? (found delayKey)
  have interval := Store.optionalInt_eq_integer? (found intervalKey)
  have lower : Lower (asciiLowered declared.name) := by
    rw [← lowercased_of_ascii fun c member ↦ ascii_of_isWordChar (declared.word c member)]
    exact lower_lowercased _
  have parameters : readParameters store.accessor index .sections =
      readTimes store.accessor sectionName delayKey intervalKey
        (some (asciiLowered declared.name)) := by
    unfold readParameters
    dsimp only
    rw [own]
    dsimp only
    rw [named]
  have resolved : resolve store.accessor index .sections = .ok
      ⟨⟨index, asciiLowered declared.name, (optionalInt store.accessor sectionName delayKey).1,
        (optionalInt store.accessor sectionName intervalKey).1, port⟩, .sections,
        (optionalInt store.accessor sectionName delayKey).2 ++
          (optionalInt store.accessor sectionName intervalKey).2⟩ := by
    unfold resolve
    rw [required]
    dsimp only [Except.map, Layout.effective]
    rw [parameters]
    unfold readTimes
    dsimp only
    rw [declared.chooseName_lowered index, List.append_nil]
  refine ⟨_, resolved, rfl, rfl, rfl, ?_, asciiLowered_of_lower, delay.1, interval.1, ?_⟩
  · exact (sameIgnoringCase_of_lower_iff lower).mpr rfl
  · rw [List.append_eq_nil_iff, delay.2, interval.2]

/-- A document that declares the watchdog with a valid port and then instances loads, and every
instance is resolved, in its place, as it was declared. -/
theorem resolves_declared {text : String} {document : Ini.Document} {watchdog : List Ini.Entry}
    {instances : List DeclaredInstance} {port : UInt16}
    (read : Ini.Document.read text.toList = .ok document)
    (declares : document.Declares watchdog instances) (positive : port ≠ 0)
    (valid : Ini.Section.integer? ⟨watchdogSection, watchdog⟩ portKey =
      some (Int64.ofNat port.toNat)) :
    ∃ notices store, Store.load text = .ok ⟨notices, .ok store⟩ ∧
      ∀ index declared, index ≠ 0 → instances[index.toNat - 1]? = some declared →
        ∃ resolved, resolve store.accessor index .sections = .ok resolved ∧
          Resolved.AsDeclared declared index port resolved := by
  rcases Store.ofDocument_cases document with
    ⟨notices, store, stored⟩ | ⟨nests, -⟩ | ⟨overreaches, -⟩
  · obtain ⟨tree, made, tables⟩ := exists_treeOf stored
    refine ⟨notices, store, (Store.load_of_read read).trans stored, ?_⟩
    intro index declared first listed
    have watched : (⟨watchdogSection, watchdog⟩ : Ini.Section) ∈ document.sections := by
      rw [declares.sections]
      exact List.mem_cons_self
    have member : declared.opened ∈ document.sections := by
      rw [declares.sections]
      exact List.mem_cons_of_mem _ (List.mem_map_of_mem (List.mem_of_getElem? listed))
    have required : readPort store.accessor = .ok port :=
      readPort_eq positive (Store.getInt_eq_ok
        (Store.find?_of_section declares made tables watched
          (lowercased_of_ascii ascii_watchdogSection).symm portKey) valid)
    refine DeclaredInstance.exists_asDeclared required ?_ declared.isApplication_lowercased.2
      fun key ↦ Store.find?_of_section declares made tables member
        (asciiLowered_of_lower (lower_lowercased _)) key
    unfold applicationSection?
    rw [if_neg first, Store.applicationSections_eq declares made tables, List.getElem?_map, listed,
      Option.map_some]
  · exact absurd nests declares.shallow
  · exact absurd overreaches declares.reachable

/-- An entry outside any section, and two instances, the first without an interval. -/
def declaringText : String :=
  "log.level = info\n[processWatchdog]\nudp_port = 12345\n[app:Worker_1]\nheartbeat_delay = 5\n" ++
    "[app:x]\nheartbeat_delay = -1\nheartbeat_interval = 60\n"

/-- The instances of that text. -/
def workers : List DeclaredInstance :=
  [⟨"Worker_1", [⟨delayKey, "5"⟩], by decide, List.all_eq_true.mp (by decide)⟩,
    ⟨"x", [⟨delayKey, "-1"⟩, ⟨intervalKey, "60"⟩], by decide, List.all_eq_true.mp (by decide)⟩]

/-- The document of that text. -/
def declaringDocument : Ini.Document where
  general := [⟨"log.level", "info"⟩]
  sections := ⟨watchdogSection, [⟨portKey, "12345"⟩]⟩ :: workers.map DeclaredInstance.opened

theorem resolves_declared_workers :
    Ini.Document.read declaringText.toList = .ok declaringDocument ∧
      declaringDocument.Declares [⟨portKey, "12345"⟩] workers ∧
      ∃ notices store, Store.load declaringText = .ok ⟨notices, .ok store⟩ ∧
        (∃ resolved, resolve store.accessor 1 .sections = .ok resolved ∧
          resolved.config = ⟨1, resolved.config.name, 5, 0, 12345⟩ ∧
          sameIgnoringCase resolved.config.name "Worker_1" = true ∧ resolved.warnings ≠ []) ∧
        ∃ resolved, resolve store.accessor 2 .sections = .ok resolved ∧
          resolved.config = ⟨2, "x", -1, 60, 12345⟩ ∧ resolved.warnings = [] := by
  have read : Ini.Document.read declaringText.toList = .ok declaringDocument := by decide +kernel
  have declares : declaringDocument.Declares [⟨portKey, "12345"⟩] workers :=
    ⟨rfl, by decide, by decide, by decide, by decide⟩
  have valid : Ini.Section.integer? ⟨watchdogSection, [⟨portKey, "12345"⟩]⟩ portKey =
      some (Int64.ofNat (12345 : UInt16).toNat) := by decide
  obtain ⟨notices, store, loaded, all⟩ := resolves_declared read declares (by decide) valid
  obtain ⟨capital, first, worker⟩ := all 1 _ (by decide) rfl
  obtain ⟨resolved, made, declared⟩ := all 2 _ (by decide) rfl
  have half : capital.config = ⟨1, capital.config.name, 5, 0, 12345⟩ := by
    have delay : capital.config.delay = 5 := worker.delay.trans (by decide)
    have interval : capital.config.interval = 0 := worker.interval.trans (by decide)
    rw [← worker.index, ← delay, ← interval, ← worker.port]
  have lower : Lower "x" := List.forall_mem_singleton.mpr (by decide)
  have config : resolved.config = ⟨2, "x", -1, 60, 12345⟩ := by
    have name : resolved.config.name = "x" := declared.lowerName lower
    have delay : resolved.config.delay = -1 := declared.delay.trans (by decide)
    have interval : resolved.config.interval = 60 := declared.interval.trans (by decide)
    rw [← declared.index, ← name, ← delay, ← interval, ← declared.port]
  exact ⟨read, declares, notices, store, loaded,
    ⟨capital, first, half, worker.name, fun silent ↦
      absurd (worker.warnings.mp silent).2 (by decide)⟩,
    resolved, made, config, declared.warnings.mpr ⟨by decide, by decide⟩⟩

/-- Two instances with names that differ in case alone. -/
def mergingText : String :=
  "[processWatchdog]\nudp_port = 12345\n[app:Worker]\nheartbeat_delay = 1\n" ++
    "heartbeat_interval = 30\n[app:worker]\nheartbeat_delay = 2\nheartbeat_interval = 60\n"

/-- The document of that text. -/
def mergingDocument : Ini.Document where
  general := []
  sections := [⟨watchdogSection, [⟨portKey, "12345"⟩]⟩,
    ⟨"app:Worker", [⟨delayKey, "1"⟩, ⟨intervalKey, "30"⟩]⟩,
    ⟨"app:worker", [⟨delayKey, "2"⟩, ⟨intervalKey, "60"⟩]⟩]

theorem merges_workers :
    Ini.Document.read mergingText.toList = .ok mergingDocument ∧
      ∃ notices store, Store.load mergingText = .ok ⟨notices, .ok store⟩ ∧
        resolve store.accessor 1 .sections =
          .ok ⟨⟨1, "worker", 2, 60, 12345⟩, .sections, []⟩ ∧
        resolve store.accessor 2 .sections =
          .ok ⟨⟨2, "Process2", 0, 0, 12345⟩, .sections,
            [.noApplicationSection 2 1, .synthesizedName 2 "Process2"]⟩ ∧
        ¬ ∃ resolved, resolve store.accessor 1 .sections = .ok resolved ∧
          resolved.config.name = "Worker" := by
  have read : Ini.Document.read mergingText.toList = .ok mergingDocument := by decide +kernel
  have first : resolve (Store.accessor ⟨[⟨"processwatchdog", [(portKey, "12345")]⟩,
      ⟨"app:worker", [(delayKey, "2"), (intervalKey, "60")]⟩]⟩) 1 .sections =
        .ok ⟨⟨1, "worker", 2, 60, 12345⟩, .sections, []⟩ := by decide
  refine ⟨read, [.found 2], _, (Store.load_of_read read).trans rfl, first, by decide, ?_⟩
  rintro ⟨resolved, made, named⟩
  cases first.symm.trans made
  exact absurd named (by decide)

end Heartbeat
