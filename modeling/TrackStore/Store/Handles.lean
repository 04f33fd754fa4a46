import TrackStore.Store.Membership
import TrackStore.Store.Slots

/-! # Handles on a store

A view is a handle on one row, and is taken only of a live one. A view for reading has the store as
it was then; one for writing works on the store as it is at each moment.

A name is a handle on a whole store. Several names can share one store, and what is done through one
of them all see. A name is the last one of its store when no other shares it.
-/

namespace TrackStore

structure RowView where
  store : Store
  row : Row

namespace RowView

def get (v : RowView) (t : FieldType) (field : FieldId) : Except Error (Option t.Value) :=
  v.store.getValue t field v.row

def hasValue (v : RowView) (field : FieldId) : Except Error Bool := v.store.hasValue field v.row

def fields (v : RowView) : Except Error (List FieldId) := v.store.fieldsAt v.row

def frames (v : RowView) : Except Error (List Row) := v.store.framesAt v.row

end RowView

structure RowViewMut where
  row : Row

namespace RowViewMut

def get (v : RowViewMut) (t : FieldType) (field : FieldId) (s : Store) :
    Except Error (Option t.Value) :=
  s.getValue t field v.row

/-- Answers the view again, for the next value. -/
def set (v : RowViewMut) (t : FieldType) (field : FieldId) (x : t.Value) : StoreM RowViewMut := do
  Store.setValue t field v.row x
  return v

def remove (v : RowViewMut) (field : FieldId) : StoreM Bool := Store.removeAt field v.row

end RowViewMut

namespace Store

def view (s : Store) (row : Row) : Except Error RowView := do
  s.checkRow row
  return ⟨s, row⟩

def viewMut (row : Row) : StoreM RowViewMut := do
  query fun s => s.checkRow row
  return ⟨row⟩

end Store

structure Pool where
  stores : Array Store
  /-- Where the store of each name stands. -/
  handles : Std.ExtTreeMap String Nat

namespace Pool

def empty : Pool := ⟨#[], ∅⟩

def find (p : Pool) (name : String) : Option Store := do
  p.stores[← p.handles[name]?]?

/-- Gives a name a store of its own; the handle of that name is given up. -/
def hold (p : Pool) (name : String) (s : Store) : Pool :=
  ⟨p.stores.push s, p.handles.insert name p.stores.size⟩

/-- Replaces the store of a name, for all handles that share it. -/
def put (p : Pool) (name : String) (s : Store) : Pool :=
  match p.handles[name]? with
  | some cell => { p with stores := p.stores.modify cell fun _ => s }
  | none => p

/-- Lets a second name share the store of a first. -/
def share (p : Pool) (name second : String) : Pool :=
  match p.handles[name]? with
  | some cell => { p with handles := p.handles.insert second cell }
  | none => p

/-- Whether no other name shares the store of this one. -/
def isLast (p : Pool) (name : String) : Bool :=
  match p.handles[name]? with
  | some cell => (p.handles.toList.filter (·.2 == cell)).length == 1
  | none => false

def names (p : Pool) : List String := p.handles.keys

end Pool
end TrackStore
