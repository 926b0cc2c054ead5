import Heartbeat.Ini.Printer
import Heartbeat.Ini.Reader
import Heartbeat.Proofs.PlainText

/-!
# Documents read back

A document whose names, keys and values give the format nothing to act on reads back as it was
(`Document.read_chars`). What they must not contain is in `Plain`, `Entry.Plain` and
`Section.Plain`.

`Leads` follows the reader over a part of the text, from one document and pending item to the next.
The positions are left out, because only comments and errors look at them. Its parts are put
together with `Leads.append`: the characters of a piece (`Leads.piece`), an entry, a header, and
then the lines of a section and of a document.
-/

set_option autoImplicit false
set_option relaxedAutoImplicit false

namespace Heartbeat.Ini

open Heartbeat.Text

/-! ### Plain documents -/

/-- A text that is read as it stands up to its ending: no blanks at its ends, no escapes, and none
of the characters that make the ending. -/
structure Plain (ending : Ending) (text : List Char) : Prop where
  unpadded : Unpadded text
  chars : ∀ c ∈ text, c ≠ '\\' ∧ ending.chars.contains c = false

/-- An entry that is read as it was written. The key does not begin like a comment or a header, and
the value not with a quote. -/
structure Entry.Plain (entry : Entry) : Prop where
  named : entry.key ≠ ""
  key : Ini.Plain .separator entry.key.toList
  keyHead : ∀ c ∈ entry.key.toList.head?, c ≠ ';' ∧ c ≠ '#' ∧ c ≠ '['
  value : Ini.Plain .endOfLine entry.value.toList
  valueHead : ∀ c ∈ entry.value.toList.head?, c ≠ '"' ∧ c ≠ '\''

/-- A section that is read as it was written. -/
structure Section.Plain (opened : Section) : Prop where
  name : Ini.Plain .closingBracket opened.name.toList
  entries : ∀ entry ∈ opened.entries, entry.Plain

/-- A document that is read as it was written. -/
structure Document.Plain (document : Document) : Prop where
  general : ∀ entry ∈ document.general, entry.Plain
  sections : ∀ opened ∈ document.sections, opened.Plain

/-! ### The reader over a part of a text -/

/-- Over a text the reader comes from one document and pending item to another. -/
def Leads (text : List Char) (document : Document) (pending : Pending) (later : Document)
    (next : Pending) : Prop :=
  ∀ position, ∃ last,
    text.foldlM Reader.step ⟨document, pending, position⟩ = .ok ⟨later, next, last⟩

namespace Leads

variable {document middle later : Document} {pending halfway next : Pending}
  {text early late : List Char} {c : Char}

theorem nil : Leads [] document pending document pending :=
  fun position ↦ ⟨position, rfl⟩

theorem append (first : Leads early document pending middle halfway)
    (second : Leads late middle halfway later next) :
    Leads (early ++ late) document pending later next := by
  intro position
  obtain ⟨reached, begun⟩ := first position
  obtain ⟨last, ended⟩ := second reached
  refine ⟨last, ?_⟩
  rw [List.foldlM_append, begun]
  exact ended

theorem cons (advance : ∀ position, Reader.advance ⟨document, pending, position⟩ c =
      .ok ⟨middle, halfway, position⟩)
    (rest : Leads text middle halfway later next) :
    Leads (c :: text) document pending later next := by
  intro position
  obtain ⟨last, ended⟩ := rest (position.next c)
  refine ⟨last, ?_⟩
  have step : Reader.step ⟨document, pending, position⟩ c =
      .ok ⟨middle, halfway, position.next c⟩ := by
    unfold Reader.step
    dsimp only
    rw [advance]
    rfl
  rw [List.foldlM_cons, step]
  exact ended

theorem single (advance : ∀ position, Reader.advance ⟨document, pending, position⟩ c =
      .ok ⟨later, next, position⟩) :
    Leads [c] document pending later next :=
  .cons advance .nil

end Leads

/-! ### Pieces -/

/-- What a piece is read for, and where it ends. -/
inductive Wraps : (Piece → Pending) → Ending → Prop
  | name : Wraps .name .closingBracket
  | key : Wraps .key .separator
  | value (key : String) : Wraps (.value key) .endOfLine

/-- A character that does not end a piece is taken into it. -/
theorem Wraps.advance {wrap : Piece → Pending} {ending : Ending} (wraps : Wraps wrap ending)
    (document : Document) (position : Position) {piece : Piece} {c : Char}
    (inside : piece.endsAt ending c = false) :
    Reader.advance ⟨document, wrap piece, position⟩ c =
      (piece.step c).map fun piece ↦ ⟨document, wrap piece, position⟩ := by
  cases wraps <;>
  · unfold Reader.advance
    dsimp only
    rw [inside]
    rfl

/-- The characters of a piece up to its ending are pushed onto it. -/
theorem Leads.piece {wrap : Piece → Pending} {ending : Ending} (wraps : Wraps wrap ending)
    {document : Document} {text : List Char}
    (plain : ∀ c ∈ text, c ≠ '\\' ∧ ending.chars.contains c = false) (reversed : List Char) :
    Leads text document (wrap ⟨reversed, .none⟩) document
      (wrap ⟨text.reverse ++ reversed, .none⟩) := by
  induction text generalizing reversed with
  | nil => exact .nil
  | cons c text ih =>
    obtain ⟨⟨unescaped, unended⟩, rest⟩ := List.forall_mem_cons.mp plain
    rw [List.reverse_cons, List.append_assoc]
    refine .cons (fun position ↦ ?_) (ih rest (c :: reversed))
    have inside : Piece.endsAt ⟨reversed, .none⟩ ending c = false := by
      unfold Piece.endsAt
      rw [unended, Bool.and_false]
    have pushed : Piece.step ⟨reversed, .none⟩ c = .ok ⟨c :: reversed, .none⟩ := by
      unfold Piece.step
      simp [unescaped, Piece.push]
    rw [wraps.advance document position inside, pushed]
    rfl

/-- A piece read to its ending is trimmed to the text that was written. -/
theorem Piece.trimmed_reverse {name : String} (unpadded : Unpadded name.toList)
    {blanks : List Char} (blank : ∀ c ∈ blanks, isBlank c = true) :
    Piece.trimmed ⟨(name.toList ++ blanks).reverse, .none⟩ = name := by
  unfold trimmed text
  rw [List.reverse_reverse, trim_append_of_blank unpadded blank, String.ofList_toList]

theorem Piece.trimmed_of_unpadded {name : String} (unpadded : Unpadded name.toList) :
    Piece.trimmed ⟨name.toList.reverse, .none⟩ = name := by
  have trimmed := @trimmed_reverse name unpadded [] (by simp)
  rwa [List.append_nil] at trimmed

/-! ### Headers and entries -/

namespace Leads

variable {document : Document} {entry : Entry} {opened : Section}

theorem lineBreak : Leads ['\n'] document .between document .between :=
  .single fun _ ↦ rfl

/-- The line of a header opens a section. -/
theorem header {name : String} (plain : Plain .closingBracket name.toList) :
    Leads ('[' :: (name.toList ++ [']', '\n'])) document .between (document.opened name)
      .between := by
  have inside : Leads name.toList document (.name Piece.empty) document
      (.name ⟨name.toList.reverse ++ [], .none⟩) := .piece .name plain.chars []
  have closed : Leads [']'] document (.name ⟨name.toList.reverse ++ [], .none⟩)
      (document.opened name) .between := by
    refine .single fun position ↦ ?_
    rw [List.append_nil]
    show Except.ok (Reader.mk (document.opened _) _ _) = _
    rw [Piece.trimmed_of_unpadded plain.unpadded]
  exact .cons (fun _ ↦ rfl) (inside.append (closed.append lineBreak))

/-- The first character of a key begins a piece. -/
theorem keyStart (plain : entry.Plain) {c : Char} {rest : List Char}
    (key : entry.key.toList = c :: rest) :
    Leads [c] document .between document (.key ⟨[c], .none⟩) := by
  obtain ⟨unpadded, chars⟩ := plain.key
  have head := plain.keyHead
  rw [key] at unpadded chars head
  obtain ⟨unescaped, unended⟩ := chars c List.mem_cons_self
  obtain ⟨semicolon, hash, bracket⟩ := head c rfl
  refine .single fun position ↦ ?_
  have begun : Reader.begin position.column c = .ok (.key ⟨[c], .none⟩) := by
    unfold Reader.begin
    rw [unpadded.head c rfl, unended]
    simp [semicolon, hash, bracket, Piece.step, Piece.empty, Piece.push, unescaped, Except.map]
  unfold Reader.advance
  dsimp only
  rw [begun]
  rfl

/-- The key of an entry and the separator after it lead to the value. -/
theorem key (plain : entry.Plain) :
    Leads (entry.key.toList ++ [' ', '=', ' ']) document .between document
      (.valueStart entry.key) := by
  obtain ⟨c, rest, key⟩ : ∃ c rest, entry.key.toList = c :: rest := by
    cases chars : entry.key.toList with
    | nil => exact absurd (String.toList_eq_nil_iff.mp chars) plain.named
    | cons c rest => exact ⟨c, rest, rfl⟩
  -- The blank before the separator is read as part of the key and trimmed.
  have inside : Leads (rest ++ [' ']) document (.key ⟨[c], .none⟩) document
      (.key ⟨(rest ++ [' ']).reverse ++ [c], .none⟩) := by
    refine .piece .key (fun other member ↦ ?_) [c]
    rcases List.mem_append.mp member with before | blank
    · exact plain.key.chars other (key ▸ List.mem_cons_of_mem c before)
    · rw [List.mem_singleton.mp blank]
      decide
  have trimmed : Piece.trimmed ⟨(rest ++ [' ']).reverse ++ [c], .none⟩ = entry.key := by
    have whole := @Piece.trimmed_reverse entry.key plain.key.unpadded [' ']
      (List.forall_mem_singleton.mpr (by decide))
    rwa [key, List.cons_append, List.reverse_cons] at whole
  have ended : Leads ['='] document (.key ⟨(rest ++ [' ']).reverse ++ [c], .none⟩) document
      (.valueStart entry.key) := by
    refine .single fun position ↦ ?_
    show (if Piece.trimmed ⟨(rest ++ [' ']).reverse ++ [c], .none⟩ = "" then
        Except.error SyntaxCause.missingKey
      else .ok (Reader.mk document
        (.valueStart (Piece.trimmed ⟨(rest ++ [' ']).reverse ++ [c], .none⟩)) position)) = _
    rw [trimmed, if_neg plain.named]
  have blank : Leads [' '] document (.valueStart entry.key) document (.valueStart entry.key) :=
    .single fun _ ↦ rfl
  have whole := (keyStart plain key).append (inside.append (ended.append blank))
  rw [key]
  simpa using whole

/-- The first character of a value begins a piece. -/
theorem valueStart (plain : entry.Plain) {c : Char} {rest : List Char}
    (value : entry.value.toList = c :: rest) :
    Leads [c] document (.valueStart entry.key) document (.value entry.key ⟨[c], .none⟩) := by
  obtain ⟨unpadded, chars⟩ := plain.value
  have head := plain.valueHead
  rw [value] at unpadded chars head
  obtain ⟨unescaped, unended⟩ := chars c List.mem_cons_self
  obtain ⟨double, single⟩ := head c rfl
  refine .single fun position ↦ ?_
  show Reader.beginValue ⟨document, .valueStart entry.key, position⟩ entry.key c = _
  unfold Reader.beginValue
  rw [unended, unpadded.head c rfl]
  simp [double, single, Piece.step, Piece.empty, Piece.push, unescaped, Except.map]

/-- The value of an entry and the end of its line make the entry. -/
theorem value (plain : entry.Plain) :
    Leads (entry.value.toList ++ ['\n']) document (.valueStart entry.key) (document.assigned entry)
      .between := by
  cases chars : entry.value.toList with
  | nil =>
    have none : entry = ⟨entry.key, Piece.empty.trimmed⟩ := by
      rw [show Piece.empty.trimmed = "" from rfl, ← String.toList_eq_nil_iff.mp chars]
    rw [none]
    exact .single fun _ ↦ rfl
  | cons c rest =>
    have inside : Leads rest document (.value entry.key ⟨[c], .none⟩) document
        (.value entry.key ⟨rest.reverse ++ [c], .none⟩) := by
      refine .piece (.value entry.key) (fun other member ↦ ?_) [c]
      exact plain.value.chars other (chars ▸ List.mem_cons_of_mem c member)
    have ended : Leads ['\n'] document (.value entry.key ⟨rest.reverse ++ [c], .none⟩)
        (document.assigned entry) .between := by
      refine .single fun position ↦ ?_
      show Except.ok (Reader.mk (document.assigned ⟨entry.key, Piece.trimmed _⟩) _ _) = _
      rw [← List.reverse_cons, ← chars, Piece.trimmed_of_unpadded plain.value.unpadded]
    exact (valueStart plain chars).append (inside.append ended)

/-- The line of an entry assigns it. -/
theorem entryLine (plain : entry.Plain) :
    Leads entry.chars document .between (document.assigned entry) .between := by
  have line := (@key document _ plain).append (value plain)
  unfold Entry.chars
  simpa using line

/-- The lines of entries assign them one after the other. -/
theorem entryLines {entries : List Entry} (plain : ∀ entry ∈ entries, entry.Plain)
    (document : Document) :
    Leads (entries.flatMap Entry.chars) document .between
      (entries.foldl Document.assigned document) .between := by
  induction entries generalizing document with
  | nil => exact .nil
  | cons first entries ih =>
    obtain ⟨head, rest⟩ := List.forall_mem_cons.mp plain
    rw [List.flatMap_cons, List.foldl_cons]
    exact (entryLine head).append (ih rest _)

/-- The lines of a section open it and assign its entries. -/
theorem sectionLines (plain : opened.Plain) :
    Leads opened.chars document .between
      (opened.entries.foldl Document.assigned (document.opened opened.name)) .between := by
  have lines := (@header document _ plain.name).append (entryLines plain.entries _)
  unfold Section.chars
  simpa using lines

end Leads

/-! ### Whole documents -/

namespace Document

/-- Entries assigned in a section that was just opened are the entries of the section. -/
theorem foldl_assigned_opened (document : Document) (name : String) (known entries : List Entry) :
    entries.foldl assigned
        { document with sections := document.sections ++ [⟨name, known⟩] } =
      { document with sections := document.sections ++ [⟨name, known ++ entries⟩] } := by
  induction entries generalizing known with
  | nil => rw [List.foldl_nil, List.append_nil]
  | cons first entries ih =>
    have next : assigned { document with sections := document.sections ++ [⟨name, known⟩] } first =
        { document with sections := document.sections ++ [⟨name, known ++ [first]⟩] } := by
      simp [assigned]
    rw [List.foldl_cons, next, ih, List.append_assoc, List.singleton_append]

/-- Entries assigned before any section are general ones. -/
theorem foldl_assigned_general (known entries : List Entry) :
    entries.foldl assigned ⟨known, []⟩ = ⟨known ++ entries, []⟩ := by
  induction entries generalizing known with
  | nil => rw [List.foldl_nil, List.append_nil]
  | cons first entries ih =>
    have next : assigned ⟨known, []⟩ first = ⟨known ++ [first], []⟩ := rfl
    rw [List.foldl_cons, next, ih, List.append_assoc, List.singleton_append]

/-- The lines of sections add them to a document. -/
theorem leads_sections {sections : List Section} (plain : ∀ opened ∈ sections, opened.Plain)
    (document : Document) :
    Leads (sections.flatMap Section.chars) document .between
      { document with sections := document.sections ++ sections } .between := by
  induction sections generalizing document with
  | nil =>
    rw [List.append_nil]
    exact .nil
  | cons first sections ih =>
    obtain ⟨head, rest⟩ := List.forall_mem_cons.mp plain
    have added := document.foldl_assigned_opened first.name [] first.entries
    have one := @Leads.sectionLines document _ head
    rw [show document.opened first.name =
      { document with sections := document.sections ++ [⟨first.name, []⟩] } from rfl, added] at one
    have others := one.append (ih rest _)
    rw [List.flatMap_cons]
    simpa using others

/-- A plain document is read as it was written. -/
theorem read_chars {document : Document} (plain : document.Plain) :
    read document.chars = .ok document := by
  have general := Leads.entryLines plain.general empty
  rw [show empty = ⟨[], []⟩ from rfl, foldl_assigned_general] at general
  obtain ⟨last, ended⟩ := (general.append (leads_sections plain.sections _)) Position.start
  unfold read chars
  rw [show Reader.start = ⟨⟨[], []⟩, .between, Position.start⟩ from rfl, ended]
  rfl

end Document

end Heartbeat.Ini
