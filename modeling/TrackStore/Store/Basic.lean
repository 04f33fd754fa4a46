import TrackStore.Config.Basic
import TrackStore.Field.Registry
import TrackStore.Row.Allocator

/-! # The store

A store owns every value. A value lives, as bytes, in the slot of a field and a row; a slot that was
never written is absent. A row can own an ordered list of other rows, its frames.

What changes the store runs in `StoreM`, which keeps the store that an error leaves behind. What
only reads it is a function of the store.
-/

namespace TrackStore

/-- The slots of one field. -/
abbrev Column := Std.ExtTreeMap Row Bytes

structure Store where
  config : Config
  rows : RowAllocator
  registry : Registry
  /-- One column for each registered field. -/
  columns : Array Column
  /-- The frames of each row that ever had one, in the order in which they joined it. -/
  frames : Std.ExtTreeMap Row (List Row)
  /-- The row that each frame belongs to. -/
  owners : Std.ExtTreeMap Row Row

abbrev StoreM := EStateM Error Store

/-- How much a store holds at one moment. -/
structure Stats where
  liveRows : Nat
  deletedRows : Nat
  fields : Nat
  slots : Nat
  tracksWithFrames : Nat
deriving DecidableEq, Repr

namespace Store

/-- An empty store. A configured room beyond the maximum is cut down to it. -/
def withConfig (config : Config) : Store where
  config
  rows := .withCapacity config.roomForRows
  registry := .empty
  columns := #[]
  frames := ∅
  owners := ∅

/-- An empty store, unless the settings are refused. -/
def build (config : Config) : Except Error Store := do
  config.validate.mapError .config
  return withConfig config

/-- Reads the store and leaves it as it is. -/
def query {α : Type} (read : Store → Except Error α) : StoreM α := fun s =>
  match read s with
  | .ok a => .ok a s
  | .error e => .error e s

@[simp] theorem query_apply {α : Type} (read : Store → Except Error α) (s : Store) :
    query read s = match read s with
      | .ok a => .ok a s
      | .error e => .error e s := rfl

def isLive (s : Store) (row : Row) : Bool := s.rows.isLive row

def checkRow (s : Store) (row : Row) : Except Error Unit :=
  if s.isLive row then .ok () else .error (.staleRow row)

def liveRows (s : Store) : List Row := s.rows.liveRows

/-- A new row has no values and no frames. -/
def createRow : StoreM Row :=
  modifyGet fun s =>
    let (row, rows) := s.rows.allocate
    (row, { s with rows })

def lookupField (s : Store) (name : String) : Option FieldId := s.registry.lookup name

def describeField (s : Store) (field : FieldId) : Except Error FieldDescriptor :=
  s.registry.descriptor field

def fieldNames (s : Store) : List String := s.registry.names

/-- The handle of the field of that name and type, which is registered if it is not yet. -/
def register (d : FieldDescriptor) : StoreM FieldId := do
  let ((field, new), registry) ← query fun s => s.registry.register d
  if new then modify fun s => { s with registry, columns := s.columns.push ∅ }
  return field

def stats (s : Store) : Stats where
  liveRows := s.rows.liveCount
  deletedRows := s.rows.issued - s.rows.liveCount
  fields := s.registry.size
  slots := s.columns.foldl (fun n c => n + c.size) 0
  tracksWithFrames := (s.frames.toList.filter (·.2 ≠ [])).length

end Store
end TrackStore
