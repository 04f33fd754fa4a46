import TrackStore.Cursor
import TrackStore.Store.Slots
import TrackStore.Store.Handles

/-! # Accessors

An accessor knows the name and the type of a field, and can be bound to a host. It reads and writes
at a given row, or at the row that its host selects at that moment. An accessor is only a handle: in
another store it stands for the field with the same place there.
-/

namespace TrackStore

structure Accessor (t : FieldType) where
  field : FieldId
  name : String
  host : Option Host := none
deriving DecidableEq, Repr

/-- What remains of an accessor when its type is left open. -/
structure FieldRef where
  field : FieldId
  name : String
  type : FieldType
deriving DecidableEq, Repr

namespace Accessor

variable {t : FieldType}

/-- Registers a field; whatever type the description names, it is the type of the accessor. -/
def registerDescribed (t : FieldType) (d : FieldDescriptor) : StoreM (Accessor t) := do
  let field ← Store.register { d with type := t }
  return { field, name := d.name }

def register (t : FieldType) (name : String) : StoreM (Accessor t) :=
  registerDescribed t { name, type := t }

/-- The accessor of a field that is registered already, if it is. -/
def existing (t : FieldType) (s : Store) (name : String) : Except Error (Option (Accessor t)) :=
  match s.lookupField name with
  | none => .ok none
  | some field => do
    let d ← s.describeField field
    if d.type = t then return some { field, name }
    else throw (.typeConflict name d.type.name t.name)

def bind (a : Accessor t) (host : Host) : Accessor t := { a with host := some host }

def unbind (a : Accessor t) : Accessor t := { a with host := none }

def ref (a : Accessor t) : FieldRef := ⟨a.field, a.name, t⟩

/-- The accessor with its type and what its host selects, for people to read. -/
def debugText (a : Accessor t) (c : Cursors) : String :=
  let cursor := match a.host.bind c.selected with
    | some row => s!"Some(RowHandle({row.id}))"
    | none => "None"
  "TrackField \x7b name: " ++ Text.quote a.name ++ s!", handle: FieldHandle({a.field.index})" ++
    ", type: " ++ Text.quote t.name ++ ", cursor: " ++ cursor ++ " \x7d"

def getAt (a : Accessor t) (s : Store) (row : Row) : Except Error (Option t.Value) :=
  s.getValue t a.field row

def setAt (a : Accessor t) (row : Row) (v : t.Value) : StoreM Unit :=
  Store.setValue t a.field row v

def hasValueAt (a : Accessor t) (s : Store) (row : Row) : Except Error Bool :=
  s.hasValue a.field row

def removeAt (a : Accessor t) (row : Row) : StoreM Bool := Store.removeAt a.field row

def copyValue (a : Accessor t) (src dst : Row) : StoreM Unit := Store.copyValue a.field src dst

/-- The lowest row where the field has the value. -/
def lookup (a : Accessor t) (s : Store) (v : t.Value) : Except Error (Option Row) :=
  s.lookup t a.field v

def selectedRow (a : Accessor t) (w : Workspace) : Except Error Row :=
  match a.host with
  | some host => w.resolve host
  | none => .error .unboundCursor

def get (a : Accessor t) (w : Workspace) : Except Error (Option t.Value) := do
  w.store.getValue t a.field (← a.selectedRow w)

def hasValue (a : Accessor t) (w : Workspace) : Except Error Bool := do
  w.store.hasValue a.field (← a.selectedRow w)

def set (a : Accessor t) (v : t.Value) : WorkspaceM Unit := do
  let row ← Workspace.query a.selectedRow
  Workspace.onStore (a.setAt row v)

end Accessor

namespace FieldRef

def hasValueAt (r : FieldRef) (s : Store) (row : Row) : Except Error Bool := s.hasValue r.field row

def removeAt (r : FieldRef) (row : Row) : StoreM Bool := Store.removeAt r.field row

def copyValue (r : FieldRef) (src dst : Row) : StoreM Unit := Store.copyValue r.field src dst

end FieldRef

/-- An accessor held at one row. -/
structure PinnedField (t : FieldType) where
  accessor : Accessor t
  row : Row
deriving DecidableEq, Repr

namespace PinnedField

variable {t : FieldType}

def get (p : PinnedField t) (s : Store) : Except Error (Option t.Value) := p.accessor.getAt s p.row

def set (p : PinnedField t) (v : t.Value) : StoreM Unit := p.accessor.setAt p.row v

def hasValue (p : PinnedField t) (s : Store) : Except Error Bool := p.accessor.hasValueAt s p.row

def remove (p : PinnedField t) : StoreM Bool := p.accessor.removeAt p.row

end PinnedField
end TrackStore
