import TrackStore.Toml.Grammar

/-! # TOML documents

A document is a sequence of sections. Each but the first begins with a header, and its entries go
into the table that the header names.
-/

namespace TrackStore.Toml

/-- What the entries of a section go into. -/
inductive Target where
  | document
  | table (key : Key)
  | item (key : Key)

structure Section where
  target : Target
  entries : List Entry

/-- Groups lines into the rest of a section and the sections after it. -/
def sectionsOf : List Line → List Entry × List Section
  | [] => ([], [])
  | .blank :: ls => sectionsOf ls
  | .entry e :: ls =>
    let (entries, sections) := sectionsOf ls
    (e :: entries, sections)
  | .table key :: ls =>
    let (entries, sections) := sectionsOf ls
    ([], ⟨.table key, entries⟩ :: sections)
  | .item key :: ls =>
    let (entries, sections) := sectionsOf ls
    ([], ⟨.item key, entries⟩ :: sections)

def addEntries (entries : List Entry) (t : Table) : Option Table :=
  entries.foldlM (fun t (key, v) => t.insert key.path key.last v) t

def addSection (t : Table) (s : Section) : Option Table :=
  match s.target with
  | .document => addEntries s.entries t
  | .table key =>
    Table.modifyAt false (fun _ => Table.addTable key.last (addEntries s.entries)) key.path
      .header t
  | .item key =>
    Table.modifyAt false (fun _ => Table.addItem key.last (addEntries s.entries)) key.path .header t

def tableOfLines (ls : List Line) : Option Table :=
  let (entries, sections) := sectionsOf ls
  (⟨.document, entries⟩ :: sections).foldlM addSection []

/-- The table that a text describes, if it is a document. -/
def read (text : String) : Option Table := do
  let (ls, _) ← lines.run text.toList
  tableOfLines ls

end TrackStore.Toml
