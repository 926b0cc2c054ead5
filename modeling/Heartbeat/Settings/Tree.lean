import Heartbeat.Fault
import Heartbeat.Settings.AccessPath

/-!
# Trees of settings

Settings are gathered in a tree whose tables keep the order in which their keys first appeared.
`Tree.assign` follows a path and puts a `Content` at its end: a text replaces what is there, a table
is merged into it key by key. What lies in the way of a step is replaced by a table or a list, and a
list grows as far as its index asks.
-/

set_option autoImplicit false
set_option relaxedAutoImplicit false

namespace Heartbeat.Settings

open Heartbeat.Text

/-- A tree of settings. -/
inductive Tree
  | nothing
  | text (value : String)
  | table (entries : List (String × Tree))
  | list (items : List Tree)
deriving Inhabited

/-- What is put into a tree: a text, or a table of texts. -/
inductive Content
  | text (value : String)
  | table (entries : List (String × String))
deriving DecidableEq

/-- Changes the value of a key, which keeps its place; a key that is not there comes last. -/
def updateKey {α : Type} (key : String) (change : Option α → α) :
    List (String × α) → List (String × α)
  | [] => [(key, change none)]
  | (other, value) :: rest =>
    if other = key then (other, change (some value)) :: rest
    else (other, value) :: updateKey key change rest

namespace Tree

/-- The entries of a table, and none for any other tree. -/
def entries : Tree → List (String × Tree)
  | .table entries => entries
  | _ => []

/-- The items of a list, and none for any other tree. -/
def items : Tree → List Tree
  | .list items => items
  | _ => []

/-- The value of a key in a tree that is a table. -/
def find? (tree : Tree) (key : String) : Option Tree :=
  tree.entries.lookup key

/-- The table with the value of one key changed. -/
def setKey (tree : Tree) (key : String) (value : Tree) : Tree :=
  .table (updateKey key (fun _ ↦ value) tree.entries)

/-- What stands at the end of a path once a content is put there. A table merged into nothing is
there even without entries, and without entries it leaves anything else as it is. -/
def merged (content : Content) (present : Option Tree) : Tree :=
  match content with
  | .text value => .text value
  | .table entries =>
    entries.foldl (fun tree entry ↦ tree.setKey (lowercased entry.1) (.text entry.2))
      (present.getD (.table []))

/-- A content as a tree of its own. -/
def ofContent : Content → Tree
  | .text value => .text value
  | .table entries => .table (entries.map fun entry ↦ (entry.1, .text entry.2))

/-- The longest list that can be asked for. A list is filled up to the place that is asked for, so
that a place far enough on needs more memory than there is. Where that begins depends on the machine
that reads; this library takes it to be here, and a document with a place further on has no
outcome. -/
def maxLength : Nat := 4294967296

/-- The place in a list of the given length that an index means. -/
def place (length : Nat) (index : Int) : Except Fault Nat :=
  if 0 ≤ index then
    if index.toNat < maxLength then .ok index.toNat else .error .placeOutOfRange
  else if index.natAbs ≤ length then .ok (length - index.natAbs)
  else .error .placeOutOfRange

/-- The items with enough empty ones at the end to have the given place. -/
def grown (items : List Tree) (place : Nat) : List Tree :=
  items ++ List.replicate (place + 1 - items.length) .nothing

/-- The tree with the value of one key changed by a change that may fail. -/
def changeKey (key : String) (change : Option Tree → Except Fault Tree) (tree : Tree) :
    Except Fault Tree :=
  (change (tree.find? key)).map fun value ↦ tree.setKey key value

/-- What stands in a slot once a content has been put at the end of the steps from it. -/
def assignFrom (content : Content) : List PathStep → Option Tree → Except Fault Tree
  | [], present => .ok (merged content present)
  | .child key :: steps, present =>
    changeKey key (assignFrom content steps) (present.getD .nothing)
  | .place index :: steps, present => do
    let items := (present.getD .nothing).items
    let place ← place items.length index
    let items := grown items place
    let value ← if steps = [] then .ok (ofContent content)
      else assignFrom content steps items[place]?
    return .list (items.set place value)

/-- The tree with a content put at the end of a path. -/
def assign (tree : Tree) (path : AccessPath) (content : Content) : Except Fault Tree :=
  changeKey path.root (assignFrom content path.steps) tree

end Tree

end Heartbeat.Settings
