import Heartbeat.Ini.Reader
import Heartbeat.Log
import Heartbeat.Settings.Accessor
import Heartbeat.Settings.Tree
import Heartbeat.Text.Ascii

/-!
# The store of settings

A `Store` holds the sections of an INI document that an instance can look up, each a list of keys
and texts. `Store.load` makes it in three stages. `contents` merges the document by exact name: a
header that repeats a name replaces the earlier section at its place, and a key that is assigned
again takes the new value. `treeOf` reads each name as an access path and builds a tree.
`sectionsOf` takes the tables of the tree as sections; what stands in them must be texts.

Lookups compare names of sections and keys up to ASCII case (`Store.find?`), and `Store.accessor`
offers them as an `Accessor`.
-/

set_option autoImplicit false
set_option relaxedAutoImplicit false

namespace Heartbeat.Settings

open Heartbeat.Text

/-! ### From a document to a tree -/

/-- The entries with every key once, at its first place and with its last value. -/
def lastValues (entries : List Ini.Entry) : List (String × String) :=
  entries.foldl (fun known entry ↦ updateKey entry.key (fun _ ↦ entry.value) known) []

/-- The general entries as texts and the sections as tables, every name once, at its first place
and with its last content. -/
def contents (document : Ini.Document) : List (String × Content) :=
  let general := document.general.foldl
    (fun known entry ↦ updateKey entry.key (fun _ ↦ Content.text entry.value) known) []
  document.sections.foldl
    (fun known opened ↦ updateKey opened.name (fun _ ↦ .table (lastValues opened.entries)) known)
    general

/-- The tree of the contents, put in one after the other, each at the path of its name. -/
def treeOf (document : Ini.Document) : Except Fault Tree :=
  (contents document).foldlM
    (fun tree content ↦ tree.assign (AccessPath.ofName content.1) content.2) (.table [])

/-! ### From a tree to sections -/

/-- A section that can be looked up. -/
structure StoredSection where
  name : String
  entries : List (String × String)
deriving DecidableEq

/-- The sections of a document. -/
structure Store where
  sections : List StoredSection
deriving DecidableEq

/-- The text that a tree is, or what it is instead. -/
def textOf : Tree → Except LoadError String
  | .text value => .ok value
  | .table _ => .error (.wrongShape .table)
  | .list _ => .error (.wrongShape .list)
  | .nothing => .error (.wrongShape .nothing)

/-- The entries of a table as texts. -/
def textsOf (entries : List (String × Tree)) : Except LoadError (List (String × String)) :=
  entries.mapM fun entry ↦ (textOf entry.2).map fun value ↦ (entry.1, value)

/-- What is worth saying while settings are loaded. -/
inductive LoadNotice
  | reading (path : String)
  | ignored (key : String)
  | found (count : Nat)
deriving DecidableEq

/-- A notice as a log entry. -/
def LoadNotice.entry (notice : LoadNotice) : LogEntry :=
  { level := .debug
    speaker := .settings
    text := match notice with
      | .reading path => "Reading ini file " ++ path
      | .ignored key => "Ignoring key " ++ key ++ " outside any section"
      | .found count => toString count ++ " sections found" }

/-- The outcome of loading settings, and the notices on the way to it. -/
structure Loading where
  notices : List LoadNotice
  outcome : Except ConfigError Store

/-- The sections among the entries of a tree, in order: a table is a section, and everything else is
outside any section. The first table with an entry that is not a text ends the loading. -/
def sectionsOf : List (String × Tree) → List LoadNotice × Except LoadError (List StoredSection)
  | [] => ([], .ok [])
  | (name, .table entries) :: rest =>
    match textsOf entries with
    | .error cause => ([], .error cause)
    | .ok texts =>
      let (notices, sections) := sectionsOf rest
      (notices, sections.map (⟨name, texts⟩ :: ·))
  | (name, _) :: rest =>
    let (notices, sections) := sectionsOf rest
    (.ignored name :: notices, sections)

namespace Store

/-- The store of a document. -/
def ofDocument (document : Ini.Document) : Except Fault Loading :=
  (treeOf document).map fun tree ↦
    match sectionsOf tree.entries with
    | (notices, .ok sections) => ⟨notices ++ [.found sections.length], .ok ⟨sections⟩⟩
    | (notices, .error cause) => ⟨notices, .error (.load cause)⟩

/-- The store of the document that a text spells; the file that the text came from is named in
errors of syntax. -/
def ofText (text : String) (file : Option String) : Except Fault Loading :=
  match Ini.Document.read text.toList with
  | .ok document => ofDocument document
  | .error error => .ok ⟨[], .error (.load (.malformed error file))⟩

/-- The store of the document in a text. -/
def load (text : String) : Except Fault Loading :=
  ofText text none

/-! ### Lookups -/

/-- The text under a key of a section: the first key in the first section with the names asked for,
up to ASCII case. -/
def find? (store : Store) (sectionName key : String) : Option String :=
  (store.sections.find? fun stored ↦ sameIgnoringCase stored.name sectionName).bind fun stored ↦
    (stored.entries.find? fun entry ↦ sameIgnoringCase entry.1 key).map Prod.snd

/-- The text under a key. -/
def getString (store : Store) (sectionName key : String) : Except ConfigError String :=
  match store.find? sectionName key with
  | some value => .ok value
  | none => .error (.missingKey sectionName key)

/-- The integer that the text under a key denotes, blanks around it not counted. -/
def getInt (store : Store) (sectionName key : String) : Except ConfigError Int64 :=
  match store.find? sectionName key with
  | some value =>
    match readInt64? (trim value.toList) with
    | some number => .ok number
    | none => .error (.invalidValue sectionName key value)
  | none => .error (.missingKey sectionName key)

/-- The lookups of a store. -/
def accessor (store : Store) : Accessor where
  getInt := store.getInt
  getString := store.getString
  sections := store.sections.map StoredSection.name

end Store

end Heartbeat.Settings
