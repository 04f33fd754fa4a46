import TrackStore.Field.Value
import TrackStore.Store.Basic

/-! # Slots and typed values

Values as bytes, whatever the type of their field; the row is checked before the field. Every typed
access first compares the type asked for with the one declared. Values are found again by a scan of
the slots of a field, which stops at the first slot that holds no value of the type.
-/

namespace TrackStore

/-- Reads a stored value; bytes that are none are an error of the codec. -/
def FieldType.decodeSlot (t : FieldType) (bytes : Bytes) : Except Error t.Value :=
  (t.decode bytes).mapError .codec

namespace Store

def column (s : Store) (field : FieldId) : Except Error Column :=
  match s.columns[field.index]? with
  | some c => .ok c
  | none => .error (.unknownField field)

/-- The column of a field for use at a row. -/
def columnAt (s : Store) (field : FieldId) (row : Row) : Except Error Column := do
  s.checkRow row
  s.column field

def getRaw (s : Store) (field : FieldId) (row : Row) : Except Error (Option Bytes) :=
  return (← s.columnAt field row)[row]?

def hasValue (s : Store) (field : FieldId) (row : Row) : Except Error Bool :=
  return (← s.columnAt field row).contains row

def modifyColumn (s : Store) (field : FieldId) (f : Column → Column) : Store :=
  { s with columns := s.columns.modify field.index f }

/-- Stores bytes without a look at the type of the field. -/
def setRaw (field : FieldId) (row : Row) (bytes : Bytes) : StoreM Unit := do
  let _ ← query fun s => s.columnAt field row
  modify fun s => s.modifyColumn field (·.insert row bytes)

/-- Empties a slot, and says whether it held a value. -/
def removeAt (field : FieldId) (row : Row) : StoreM Bool := do
  let present ← query fun s => s.hasValue field row
  modify fun s => s.modifyColumn field (·.erase row)
  return present

/-- Copies the value at one row to another; where there is none, nothing happens. -/
def copyValue (field : FieldId) (src dst : Row) : StoreM Unit := do
  query fun s => s.checkRow src
  let column ← query fun s => s.columnAt field dst
  match column[src]? with
  | some bytes => modify fun s => s.modifyColumn field (·.insert dst bytes)
  | none => return

/-- The fields with a value at the row, in the order of registration. -/
def fieldsAt (s : Store) (row : Row) : Except Error (List FieldId) := do
  s.checkRow row
  return s.columns.toList.zipIdx.filterMap fun (c, i) =>
    if c.contains row then some ⟨i⟩ else none

def checkType (s : Store) (t : FieldType) (field : FieldId) : Except Error Unit := do
  let d ← s.describeField field
  if d.type = t then return ()
  else throw (.typeMismatch d.name d.type.name t.name)

def getValue (s : Store) (t : FieldType) (field : FieldId) (row : Row) :
    Except Error (Option t.Value) := do
  s.checkType t field
  (← s.getRaw field row).mapM t.decodeSlot

def setValue (t : FieldType) (field : FieldId) (row : Row) (v : t.Value) : StoreM Unit := do
  query fun s => s.checkType t field
  setRaw field row (t.encode v)

/-- Looks for the lowest row with a given value among slots in any order. A slot above a row already
found is not looked at. -/
def scan (t : FieldType) (v : t.Value) : Option Row → List (Row × Bytes) → Except Error (Option Row)
  | found, [] => .ok found
  | found, (row, bytes) :: slots =>
    if found.any (· < row) then scan t v found slots
    else do
      let candidate ← t.decodeSlot bytes
      scan t v (if t.equals candidate v then some row else found) slots

/-- A scan of the slots of a field in the order in which `listing` has them. -/
def lookupIn (s : Store) (listing : Column → List (Row × Bytes)) (t : FieldType) (field : FieldId)
    (v : t.Value) : Except Error (Option Row) := do
  s.checkType t field
  scan t v none (listing (← s.column field))

/-- The lowest row where the field has the value. The scan comes from the newest row down, so it
leaves out no slot. -/
def lookup (s : Store) (t : FieldType) (field : FieldId) (v : t.Value) :
    Except Error (Option Row) :=
  s.lookupIn (·.toList.reverse) t field v

end Store
end TrackStore
