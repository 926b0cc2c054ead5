import Heartbeat.Proofs.LowerNames
import Heartbeat.Settings.Store
import Mathlib.Data.List.Nodup

/-!
# How a tree of settings grows

A tree grows by one assignment after the other. What stands at the end of a path and on the way to
it after an assignment is one of three things (`Tree.Assigned`), and all else stays. From this come
the two invariants of the tree of a document: in the tables that sections are made of every key is
there once and in lower case (`Tree.Tidy`, for every document), and they hold nothing but texts as
long as no path leads into one of them (`Tree.Flat`).

`foldlM_induction` carries a property of trees from one assignment to the whole tree. An assignment
fails only at a subscript out of range (`Tree.exists_assignFrom`, `Tree.fault_of_assignFrom`).
-/

set_option autoImplicit false
set_option relaxedAutoImplicit false

namespace Heartbeat.Settings

open Heartbeat.Text

/-! ### Entries -/

section Entries

variable {α : Type} {key other : String} {change : Option α → α} {known : List (String × α)}

theorem lookup_cons_eq_ite (other : String) (first : String × α) (known : List (String × α)) :
    (first :: known).lookup other = if other = first.1 then some first.2 else known.lookup other := by
  rw [List.lookup_cons]
  split <;> simp_all

/-- Among different keys each has the value that stands with it. -/
theorem lookup_of_mem {value : α} (nodup : (known.map Prod.fst).Nodup) (member : (key, value) ∈ known) :
    known.lookup key = some value := by
  obtain ⟨before, after, rfl⟩ := List.append_of_mem member
  rw [List.map_append, List.nodup_append'] at nodup
  refine List.lookup_eq_some_iff.mpr ⟨before, after, rfl, fun entry early ↦ ?_⟩
  rw [bne_iff_ne]
  rintro rfl
  exact nodup.2.2 (List.mem_map_of_mem early) List.mem_cons_self

/-- A change of the value of one key leaves the values of the others. -/
theorem lookup_updateKey (key other : String) (change : Option α → α)
    (known : List (String × α)) : (updateKey key change known).lookup other =
      if other = key then some (change (known.lookup key)) else known.lookup other := by
  induction known with
  | nil => rw [updateKey, lookup_cons_eq_ite, List.lookup_nil, List.lookup_nil]
  | cons first known ih =>
    obtain ⟨name, value⟩ := first
    by_cases here : name = key
    · subst here
      rw [updateKey, if_pos rfl, lookup_cons_eq_ite, lookup_cons_eq_ite, lookup_cons_eq_ite,
        if_pos rfl]
      split_ifs <;> rfl
    · rw [updateKey, if_neg here, lookup_cons_eq_ite, ih, lookup_cons_eq_ite, lookup_cons_eq_ite,
        if_neg (Ne.symm here)]
      by_cases same : other = name
      · rw [if_pos same, if_pos same, if_neg (same ▸ here)]
      · rw [if_neg same, if_neg same]

/-- A key that is new comes last, and all others keep their places. -/
theorem map_fst_updateKey (key : String) (change : Option α → α) (known : List (String × α)) :
    (updateKey key change known).map Prod.fst =
      if key ∈ known.map Prod.fst then known.map Prod.fst else known.map Prod.fst ++ [key] := by
  induction known with
  | nil => rfl
  | cons first known ih =>
    obtain ⟨name, value⟩ := first
    by_cases here : name = key
    · simp [updateKey, here]
    · rw [updateKey, if_neg here, List.map_cons, ih]
      by_cases old : key ∈ known.map Prod.fst
      · simp [old]
      · simp [old, Ne.symm here]

/-- An entry after a change is an earlier one or that of the key. -/
theorem mem_updateKey {value : α} {entry : String × α}
    (member : entry ∈ updateKey key (fun _ ↦ value) known) :
    entry = (key, value) ∨ entry ∈ known := by
  induction known with
  | nil => exact .inl (List.mem_singleton.mp member)
  | cons first known ih =>
    obtain ⟨name, old⟩ := first
    by_cases here : name = key
    · rw [updateKey, if_pos here, List.mem_cons, here] at member
      exact member.imp_right (List.mem_cons_of_mem _)
    · rw [updateKey, if_neg here, List.mem_cons] at member
      rcases member with rfl | later
      · exact .inr List.mem_cons_self
      · exact (ih later).imp_right (List.mem_cons_of_mem _)

/-- Entries whose keys are told apart: every key is there once, and in lower case. -/
structure Keyed (entries : List (String × α)) : Prop where
  nodup : (entries.map Prod.fst).Nodup
  lower : ∀ key ∈ entries.map Prod.fst, Lower key

theorem Keyed.nil : Keyed ([] : List (String × α)) :=
  ⟨List.nodup_nil, nofun⟩

theorem nodup_updateKey (nodup : (known.map Prod.fst).Nodup) :
    ((updateKey key change known).map Prod.fst).Nodup := by
  rw [map_fst_updateKey]
  split_ifs with old
  · exact nodup
  · exact List.nodup_append.mpr ⟨nodup, List.nodup_singleton _, by
      rintro known present _ new rfl
      exact old (List.mem_singleton.mp new ▸ present)⟩

theorem Keyed.updateKey (keyed : Keyed known) (lower : Lower key) :
    Keyed (updateKey key change known) := by
  refine ⟨nodup_updateKey keyed.nodup, ?_⟩
  rw [map_fst_updateKey]
  split_ifs with old
  · exact keyed.lower
  · exact List.forall_mem_append.mpr ⟨keyed.lower, List.forall_mem_singleton.mpr lower⟩

end Entries

/-! ### One assignment -/

namespace Tree

variable {tree value later : Tree} {content : Content} {steps : List PathStep}
  {present : Option Tree} {path : AccessPath} {key : String}

theorem find?_setKey (tree : Tree) (key other : String) (value : Tree) :
    (tree.setKey key value).find? other = if other = key then some value else tree.find? other :=
  lookup_updateKey key other (fun _ ↦ value) tree.entries

theorem mem_of_find? (found : tree.find? key = some value) : (key, value) ∈ tree.entries := by
  obtain ⟨before, after, parts, -⟩ := List.lookup_eq_some_iff.mp found
  rw [parts]
  exact List.mem_append_right _ List.mem_cons_self

/-- What holds of the values of a table holds of them after one of them is set to a value that it
holds of. -/
theorem forall_mem_setKey {holds : Tree → Prop} (all : ∀ entry ∈ tree.entries, holds entry.2)
    (new : holds value) (key : String) :
    ∀ entry ∈ (tree.setKey key value).entries, holds entry.2 := by
  intro entry member
  rcases mem_updateKey member with rfl | old
  · exact new
  · exact all entry old

/-- A slot after an assignment along some steps: a content that was merged into it, a table with one
value assigned along the other steps, or a list. -/
inductive Assigned (content : Content) : List PathStep → Option Tree → Tree → Prop
  | merged (present : Option Tree) : Assigned content [] present (merged content present)
  | child (key : String) (steps : List PathStep) (present : Option Tree) (inner : Tree)
    (made : assignFrom content steps ((present.getD .nothing).find? key) = .ok inner) :
    Assigned content (.child key :: steps) present ((present.getD .nothing).setKey key inner)
  | list (index : Int) (steps : List PathStep) (present : Option Tree) (items : List Tree) :
    Assigned content (.place index :: steps) present (.list items)

theorem assignFrom_place (content : Content) (index : Int) (steps : List PathStep)
    (present : Option Tree) : assignFrom content (.place index :: steps) present =
      (place (present.getD .nothing).items.length index).bind fun place ↦
        let items := grown (present.getD .nothing).items place
        (if steps = [] then .ok (ofContent content)
          else assignFrom content steps items[place]?).map fun value ↦
            .list (items.set place value) := by
  rw [assignFrom]
  dsimp only
  cases place (present.getD .nothing).items.length index with
  | error fault => rfl
  | ok place =>
    by_cases last : steps = []
    · simp only [last, if_true]
      rfl
    · simp only [last, if_false]
      rfl

theorem assigned_of_assignFrom (made : assignFrom content steps present = .ok value) :
    Assigned content steps present value := by
  cases steps with
  | nil =>
    cases made
    exact .merged present
  | cons step steps =>
    cases step with
    | child key =>
      obtain ⟨inner, further, rfl⟩ := map_eq_ok_iff.mp made
      exact .child key steps present inner further
    | place index =>
      rw [assignFrom_place] at made
      obtain ⟨place, -, further⟩ := bind_eq_ok_iff.mp made
      obtain ⟨inner, -, rfl⟩ := map_eq_ok_iff.mp further
      exact .list index steps present _

/-- An assignment sets the value of the first identifier, and nothing else. -/
theorem assign_eq_ok_iff : tree.assign path content = .ok later ↔
    ∃ value, assignFrom content path.steps (tree.find? path.root) = .ok value ∧
      later = tree.setKey path.root value := by
  unfold assign changeKey
  rw [map_eq_ok_iff]
  simp only [eq_comm]

/-! ### Keys -/

/-- The keys of a tree are told apart, and so are those of each of its tables. -/
structure Tidy (tree : Tree) : Prop where
  keyed : Keyed tree.entries
  inside : ∀ entry ∈ tree.entries, Keyed entry.2.entries

theorem keyed_merged (content : Content) (keyed : ∀ tree ∈ present, Keyed tree.entries) :
    Keyed (merged content present).entries := by
  cases content with
  | text value => exact .nil
  | table entries =>
    -- A table is merged entry by entry, each under a key in lower case.
    have base : Keyed (present.getD (.table [])).entries := by
      cases present with
      | none => exact .nil
      | some tree => exact keyed tree rfl
    unfold merged
    exact @List.foldlRecOn _ _ (fun tree : Tree ↦ Keyed tree.entries) entries _ _ base
      fun tree before entry _ ↦ before.updateKey (lower_lowercased entry.1)

theorem keyed_getD (keyed : ∀ tree ∈ present, Keyed tree.entries) :
    Keyed (present.getD .nothing).entries := by
  cases present with
  | none => exact .nil
  | some tree => exact keyed tree rfl

/-- The keys of the table that an assignment leads to stay told apart. -/
theorem Assigned.keyed (assigned : Assigned content steps present value)
    (lower : ∀ step ∈ steps, step.Lower) (keyed : ∀ tree ∈ present, Keyed tree.entries) :
    Keyed value.entries := by
  cases assigned with
  | merged => exact keyed_merged content keyed
  | child key steps present inner made =>
    exact (keyed_getD keyed).updateKey (lower _ List.mem_cons_self)
  | list => exact .nil

theorem Tidy.assign (tidy : tree.Tidy) {name : String}
    (made : tree.assign (AccessPath.ofName name) content = .ok later) : later.Tidy := by
  obtain ⟨value, inner, rfl⟩ := assign_eq_ok_iff.mp made
  obtain ⟨root, steps⟩ := AccessPath.lower_ofName name
  have keyed : Keyed value.entries := (assigned_of_assignFrom inner).keyed steps
    fun present found ↦ tidy.inside _ (mem_of_find? found)
  exact ⟨tidy.keyed.updateKey root, @forall_mem_setKey _ _ (Keyed ·.entries) tidy.inside keyed _⟩

/-! ### Texts -/

/-- All that stands in a table is a text. -/
def HoldsTexts (tree : Tree) : Prop :=
  ∀ entry ∈ tree.entries, ∃ value, entry.2 = .text value

/-- All that stands in the tables of a tree is a text. -/
def Flat (tree : Tree) : Prop :=
  ∀ entry ∈ tree.entries, entry.2.HoldsTexts

/-- A content at the end of a path stands in a section without being a text there. -/
inductive Nests : List PathStep → Content → Prop
  | table (key : String) (entries : List (String × String)) : Nests [.child key] (.table entries)
  | deeper (key : String) (step : PathStep) (steps : List PathStep) (content : Content) :
    Nests (.child key :: step :: steps) content

theorem HoldsTexts.setKey (texts : tree.HoldsTexts) (key value : String) :
    (tree.setKey key (.text value)).HoldsTexts := by
  intro entry member
  rcases mem_updateKey member with rfl | old
  · exact ⟨value, rfl⟩
  · exact texts entry old

theorem holdsTexts_merged (content : Content) (texts : ∀ tree ∈ present, tree.HoldsTexts) :
    (merged content present).HoldsTexts := by
  cases content with
  | text value => exact nofun
  | table entries =>
    have base : (present.getD (.table [])).HoldsTexts := by
      cases present with
      | none => exact nofun
      | some tree => exact texts tree rfl
    unfold merged
    exact List.foldlRecOn entries _ base fun tree before entry _ ↦
      before.setKey (lowercased entry.1) entry.2

/-- The table that an assignment leads to stays one of texts, unless something else than a text is
put into it. -/
theorem Assigned.holdsTexts (assigned : Assigned content steps present value)
    (plain : ¬ Nests steps content) (texts : ∀ tree ∈ present, tree.HoldsTexts) :
    value.HoldsTexts := by
  cases assigned with
  | merged => exact holdsTexts_merged content texts
  | list => exact nofun
  | child key steps present inner made =>
    -- Only a text at the end of a single step does not nest.
    cases steps with
    | cons step steps => exact absurd (.deeper key step steps content) plain
    | nil =>
      cases content with
      | table entries => exact absurd (.table key entries) plain
      | text value =>
        cases made
        refine HoldsTexts.setKey ?_ key value
        cases present with
        | none => exact nofun
        | some tree => exact texts tree rfl

theorem Flat.assign (flat : tree.Flat) (plain : ¬ Nests path.steps content)
    (made : tree.assign path content = .ok later) : later.Flat := by
  obtain ⟨value, inner, rfl⟩ := assign_eq_ok_iff.mp made
  have texts : value.HoldsTexts := (assigned_of_assignFrom inner).holdsTexts plain
    fun present found ↦ flat _ (mem_of_find? found)
  exact forall_mem_setKey flat texts _

end Tree

/-! ### Subscripts -/

/-- A step that can always be gone: a subscript counts from the start and stays within the longest
list. -/
def PathStep.Passable : PathStep → Prop
  | .child _ => True
  | .place index => 0 ≤ index ∧ index.toNat < Tree.maxLength

namespace Tree

variable {tree : Tree} {content : Content} {steps : List PathStep} {path : AccessPath}
  {fault : Fault}

theorem place_of_passable {index : Int} (passable : PathStep.Passable (.place index))
    (length : ℕ) : place length index = .ok index.toNat := by
  unfold place
  rw [if_pos passable.1, if_pos passable.2]

/-- Steps that can always be gone lead somewhere in every tree. -/
theorem exists_assignFrom (passable : ∀ step ∈ steps, step.Passable) (present : Option Tree) :
    ∃ value, assignFrom content steps present = .ok value := by
  induction steps generalizing present with
  | nil => exact ⟨_, rfl⟩
  | cons step steps ih =>
    obtain ⟨first, others⟩ := List.forall_mem_cons.mp passable
    cases step with
    | child key =>
      obtain ⟨inner, made⟩ := ih others ((present.getD .nothing).find? key)
      exact ⟨_, map_eq_ok_iff.mpr ⟨inner, made, rfl⟩⟩
    | place index =>
      rw [assignFrom_place, place_of_passable first]
      by_cases last : steps = []
      · exact ⟨_, bind_eq_ok_iff.mpr ⟨_, rfl, map_eq_ok_iff.mpr ⟨_, if_pos last, rfl⟩⟩⟩
      · obtain ⟨inner, made⟩ := ih others
          (grown (present.getD .nothing).items index.toNat)[index.toNat]?
        exact ⟨_, bind_eq_ok_iff.mpr ⟨_, rfl,
          map_eq_ok_iff.mpr ⟨inner, (if_neg last).trans made, rfl⟩⟩⟩

theorem exists_assign (passable : ∀ step ∈ path.steps, step.Passable) (tree : Tree)
    (content : Content) : ∃ later, tree.assign path content = .ok later := by
  obtain ⟨value, made⟩ := exists_assignFrom passable (tree.find? path.root)
  exact ⟨_, assign_eq_ok_iff.mpr ⟨value, made, rfl⟩⟩

theorem fault_of_place {length : ℕ} {index : Int} (failed : place length index = .error fault) :
    fault = .placeOutOfRange := by
  unfold place at failed
  split_ifs at failed <;> cases failed <;> rfl

/-- The only fault of an assignment is a subscript out of range. -/
theorem fault_of_assignFrom {present : Option Tree}
    (failed : assignFrom content steps present = .error fault) : fault = .placeOutOfRange := by
  induction steps generalizing present with
  | nil => cases failed
  | cons step steps ih =>
    cases step with
    | child key => exact ih (map_eq_error_iff.mp failed)
    | place index =>
      rw [assignFrom_place] at failed
      cases placed : place (present.getD .nothing).items.length index with
      | error other =>
        rw [placed] at failed
        cases failed
        exact fault_of_place placed
      | ok place =>
        rw [placed] at failed
        have further := map_eq_error_iff.mp failed
        split_ifs at further
        exact ih further

theorem fault_of_assign (failed : tree.assign path content = .error fault) :
    fault = .placeOutOfRange :=
  fault_of_assignFrom (map_eq_error_iff.mp failed)

end Tree

/-! ### One assignment after the other -/

section Fold

variable {σ ι ε : Type} {next : σ → ι → Except ε σ} {items : List ι} {start later : σ}

/-- What every step of a computation over a list keeps holds at its end. -/
theorem foldlM_induction {holds : σ → Prop} (made : items.foldlM next start = .ok later)
    (base : holds start) (step : ∀ earlier reached, ∀ item ∈ items, holds earlier →
      next earlier item = .ok reached → holds reached) : holds later := by
  induction items generalizing start with
  | nil =>
    cases made
    exact base
  | cons first items ih =>
    obtain ⟨reached, begun, further⟩ := bind_eq_ok_iff.mp made
    exact ih further (step start reached first List.mem_cons_self base begun)
      fun earlier reached item member ↦ step earlier reached item (List.mem_cons_of_mem _ member)

/-- A computation over a list fails only where one of its steps does. -/
theorem exists_of_foldlM_eq_error {error : ε} (failed : items.foldlM next start = .error error) :
    ∃ earlier, ∃ item ∈ items, next earlier item = .error error := by
  induction items generalizing start with
  | nil => cases failed
  | cons first items ih =>
    cases begun : next start first with
    | error other =>
      rw [List.foldlM_cons, begun] at failed
      cases failed
      exact ⟨start, first, List.mem_cons_self, begun⟩
    | ok reached =>
      rw [List.foldlM_cons, begun] at failed
      obtain ⟨earlier, item, member, failed⟩ := ih failed
      exact ⟨earlier, item, List.mem_cons_of_mem _ member, failed⟩

end Fold

/-! ### The tree of a document -/

section Document

variable {document : Ini.Document} {tree : Tree}

/-- The keys of the tree of a document and of its tables are told apart, whatever the document. -/
theorem tidy_of_treeOf (made : treeOf document = .ok tree) : tree.Tidy :=
  foldlM_induction made ⟨.nil, nofun⟩ fun _ _ _ _ tidy assigned ↦ tidy.assign assigned

/-- The tables of the tree of a document hold nothing but texts if no name nests. -/
theorem flat_of_treeOf (made : treeOf document = .ok tree)
    (plain : ∀ content ∈ contents document,
      ¬ Tree.Nests (AccessPath.ofName content.1).steps content.2) : tree.Flat :=
  foldlM_induction made nofun fun _ _ content member flat assigned ↦
    flat.assign (plain content member) assigned

/-- A document has no tree only because of a subscript out of range, and there is one in a name. -/
theorem exists_of_treeOf_eq_error {fault : Fault} (failed : treeOf document = .error fault) :
    fault = .placeOutOfRange ∧
      ∃ content ∈ contents document, ∃ step ∈ (AccessPath.ofName content.1).steps,
        ¬ step.Passable := by
  obtain ⟨earlier, content, member, unassigned⟩ := exists_of_foldlM_eq_error failed
  refine ⟨Tree.fault_of_assign unassigned, content, member, ?_⟩
  by_contra passable
  push Not at passable
  obtain ⟨later, assigned⟩ := Tree.exists_assign passable earlier content.2
  exact nomatch unassigned.symm.trans assigned

end Document

end Heartbeat.Settings
