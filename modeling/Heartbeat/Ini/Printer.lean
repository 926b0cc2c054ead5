import Heartbeat.Ini.Document

/-!
# Writing INI documents

`Document.text` writes a document with a line for each header and each entry. Names, keys and
values stand as they are: no quotes and no escapes are added, so a document reads back as it was
only if the format gives no meaning to what stands in them.
-/

set_option autoImplicit false
set_option relaxedAutoImplicit false

namespace Heartbeat.Ini

/-- The line of an entry. -/
def Entry.chars (entry : Entry) : List Char :=
  entry.key.toList ++ ' ' :: '=' :: ' ' :: (entry.value.toList ++ ['\n'])

/-- The line of a header and the lines of the entries under it. -/
def Section.chars (opened : Section) : List Char :=
  '[' :: (opened.name.toList ++ ']' :: '\n' :: opened.entries.flatMap Entry.chars)

/-- The lines of a document. -/
def Document.chars (document : Document) : List Char :=
  document.general.flatMap Entry.chars ++ document.sections.flatMap Section.chars

/-- A document as text. -/
def Document.text (document : Document) : String :=
  String.ofList document.chars

end Heartbeat.Ini
