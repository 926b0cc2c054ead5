/-!
# INI documents

A document holds entries outside any section, the general ones, and then sections in the order of
their headers. A header that repeats a name opens a section of its own, and a key may be assigned
any number of times: nothing is merged here. `Document.opened` and `Document.assigned` are the two
ways in which a document grows, at its end.
-/

set_option autoImplicit false
set_option relaxedAutoImplicit false

namespace Heartbeat.Ini

/-- A key and the value assigned to it. -/
structure Entry where
  key : String
  value : String
deriving DecidableEq

/-- A header and the entries under it. -/
structure Section where
  name : String
  entries : List Entry
deriving DecidableEq

/-- The entries before the first header, and the sections. -/
structure Document where
  general : List Entry
  sections : List Section
deriving DecidableEq

namespace Document

/-- The document without any text. -/
def empty : Document := ⟨[], []⟩

/-- The document with one more section, still without entries. -/
def opened (document : Document) (name : String) : Document :=
  { document with sections := document.sections ++ [⟨name, []⟩] }

/-- The document with one more entry: in the last section, or among the general ones if there is no
section yet. -/
def assigned (document : Document) (entry : Entry) : Document :=
  match document.sections.getLast? with
  | none => { document with general := document.general ++ [entry] }
  | some last =>
    { document with
      sections := document.sections.dropLast ++ [{ last with entries := last.entries ++ [entry] }] }

end Document

end Heartbeat.Ini
