import TrackStore.Toml.Number
import TrackStore.Toml.Value

/-! # TOML grammar

Values, and the lines of a document: blank ones, entries and headers.
-/

namespace TrackStore.Toml

open Scan

/-- A key with its value. -/
abbrev Entry := Key × Value

def boolean : Scan Bool :=
  (fun _ => true) <$> literal "true" <|> (fun _ => false) <$> literal "false"

/-- Values between brackets; a comma may follow the last. -/
def arrayOf (value : Scan Value) : Scan Value := do
  char '['
  let item : Scan Value := do
    gap
    let v ← value
    gap
    return v
  let items ← optional (separated item (char ','))
  if items.isSome then
    let _ ← optional (char ',')
  gap
  char ']'
  return .array (items.getD [])

def entryOf (value : Scan Value) : Scan Entry := do
  let key ← dottedKey
  char '='
  blanks
  return (key, ← value)

def tableOfEntries (entries : List Entry) : Option Table :=
  entries.foldlM (fun t (key, v) => t.insert key.path key.last v) []

/-- Entries between braces, on one line. -/
def bracesOf (value : Scan Value) : Scan Value := do
  char '\x7b'
  let item : Scan Entry := do
    let e ← entryOf value
    blanks
    return e
  let entries ← optional (separated item (char ','))
  blanks
  char '\x7d'
  match tableOfEntries (entries.getD []) with
  | some t => return .table .braces t
  | none => failure

def scalar : Scan Value :=
  Value.text <$> quotedText <|> Value.boolean <$> boolean <|> number

/-- A value with at most `depth` brackets or braces around any part of it. -/
def value : (depth : Nat) → Scan Value
  | 0 => scalar
  | depth + 1 => scalar <|> arrayOf (value depth) <|> bracesOf (value depth)

def maxDepth : Nat := 79

inductive Line where
  | blank
  | entry (e : Entry)
  /-- A header, which begins a table. -/
  | table (key : Key)
  /-- A header in double brackets, which begins one more table of that name. -/
  | item (key : Key)

def blankLine : Scan Line := do
  newline
  return .blank

def commentLine : Scan Line := do
  comment
  newline <|> atEnd
  return .blank

def itemHeader : Scan Line := do
  literal "[["
  let key ← dottedKey
  literal "]]"
  lineEnd
  return .item key

def tableHeader : Scan Line := do
  char '['
  let key ← dottedKey
  char ']'
  lineEnd
  return .table key

def entryLine : Scan Line := do
  let e ← entryOf (value maxDepth)
  lineEnd
  return .entry e

def line : Scan Line := do
  blanks
  blankLine <|> commentLine <|> itemHeader <|> tableHeader <|> entryLine

def byteOrderMark : Scan Unit := char '\ufeff'

def lines : Scan (List Line) := do
  let _ ← optional byteOrderMark
  let ls ← many line
  blanks
  atEnd
  return ls

end TrackStore.Toml
