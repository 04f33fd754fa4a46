import TrackStore.Field.Accessor

/-! # Schemas

A schema is a named set of fields, some for tracks and some for their frames, with a host of its
own. It stores nothing: declaring a field registers it, or finds it registered already, and gives
an accessor bound to the host.
-/

namespace TrackStore

/-- The rows that a field is declared for. -/
inductive Container where
  | track
  | frame
deriving DecidableEq, Repr

def Container.name : Container → String
  | track => "track"
  | frame => "frame"

structure Schema where
  name : String
  host : Host
  /-- The fields of a track, in the order of declaration. -/
  track : List FieldRef
  /-- The fields of a frame, in the order of declaration. -/
  frame : List FieldRef
deriving DecidableEq, Repr

/-- A field to be declared. -/
structure Declaration where
  container : Container
  descriptor : FieldDescriptor
deriving DecidableEq, Repr

namespace Declaration

/-- A field with nothing said about it but its type. -/
def plain (container : Container) (name : String) (type : FieldType) : Declaration :=
  ⟨container, { name, type }⟩

/-- A field with a meaning shared across formats. -/
def wellKnown (container : Container) (name : String) (type : FieldType) (description : String) :
    Declaration :=
  ⟨container, { name, type, description, role := .wellKnown }⟩

end Declaration

namespace Schema

def fields (s : Schema) : Container → List FieldRef
  | .track => s.track
  | .frame => s.frame

/-- Whether a field is among those listed. -/
def lists (refs : List FieldRef) (field : FieldId) : Bool := refs.any (·.field == field)

/-- Whether the schema declares a field, for tracks or for frames. -/
def declares (s : Schema) (field : FieldId) : Bool := lists s.track field || lists s.frame field

/-- Adds a field that is not listed yet. -/
def adjoin (refs : List FieldRef) (r : FieldRef) : List FieldRef :=
  if lists refs r.field then refs else refs ++ [r]

def add (s : Schema) (container : Container) (r : FieldRef) : Schema :=
  match container with
  | .track => { s with track := adjoin s.track r }
  | .frame => { s with frame := adjoin s.frame r }

/-- A schema without fields, with a new host. -/
def new (name : String) : WorkspaceM Schema := do
  return { name, host := ← Workspace.newHost, track := [], frame := [] }

/-- Declares one more field. -/
def declare (s : Schema) (container : Container) (t : FieldType) (d : FieldDescriptor) :
    StoreM (Accessor t × Schema) := do
  let a ← Accessor.registerDescribed t d
  return (a.bind s.host, s.add container a.ref)

/-- Declares fields in order; the first that is refused ends it, and those before it stay
registered. -/
def declareAll (s : Schema) : List Declaration → StoreM (List (Sigma Accessor) × Schema)
  | [] => return ([], s)
  | d :: ds => do
    let (a, s) ← s.declare d.container d.descriptor.type d.descriptor
    let (accessors, s) ← s.declareAll ds
    return (⟨_, a⟩ :: accessors, s)

/-- A new schema with the given fields, and their accessors. -/
def build (name : String) (ds : List Declaration) :
    WorkspaceM (List (Sigma Accessor) × Schema) := do
  let s ← new name
  Workspace.onStore (s.declareAll ds)

/-- The same fields with a new host. -/
def duplicate (s : Schema) : WorkspaceM Schema := do
  return { s with host := ← Workspace.newHost }

def select (s : Schema) (row : Row) : WorkspaceM Unit := Workspace.select s.host (some row)

def selected (s : Schema) (c : Cursors) : Option Row := c.selected s.host

end Schema
end TrackStore
