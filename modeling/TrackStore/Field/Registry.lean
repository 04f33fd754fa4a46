import TrackStore.Error
import TrackStore.Field.Type
import Std.Data.ExtTreeMap.Lemmas

/-! # Registered fields

Fields have distinct names. The first registration of a name fixes the type and the description
of the field; a later one with the same type gives the same handle, and one with another type is
refused. Fields are never removed, so a handle stays valid.
-/

namespace TrackStore

/-- Who declared a field. -/
inductive FieldRole where
  | system
  | wellKnown
  | adHoc
deriving DecidableEq, Repr

namespace FieldRole

def all : List FieldRole := [system, wellKnown, adHoc]

def name : FieldRole → String
  | system => "System"
  | wellKnown => "WellKnown"
  | adHoc => "AdHoc"

end FieldRole

structure FieldDescriptor where
  name : String
  type : FieldType
  description : String := ""
  role : FieldRole := .adHoc
deriving DecidableEq, Repr

/-- The fields in the order of registration, and where each name stands in it. -/
structure Registry where
  descriptors : Array FieldDescriptor
  byName : Std.ExtTreeMap String FieldId

namespace Registry

def empty : Registry := ⟨#[], ∅⟩

/-- How many fields can have a handle. -/
def maxFields : Nat := 0x100000000

def size (r : Registry) : Nat := r.descriptors.size

def lookup (r : Registry) (name : String) : Option FieldId := r.byName[name]?

def contains (r : Registry) (field : FieldId) : Bool := field.index < r.size

def descriptor (r : Registry) (field : FieldId) : Except Error FieldDescriptor :=
  match r.descriptors[field.index]? with
  | some d => .ok d
  | none => .error (.unknownField field)

/-- Adds a field whose name is new. -/
def append (r : Registry) (d : FieldDescriptor) : Registry :=
  ⟨r.descriptors.push d, r.byName.insert d.name ⟨r.size⟩⟩

theorem size_append (r : Registry) (d : FieldDescriptor) : (r.append d).size = r.size + 1 := by
  simp [size, append]

theorem lookup_append (r : Registry) (d : FieldDescriptor) (name : String) :
    (r.append d).lookup name = if name = d.name then some ⟨r.size⟩ else r.lookup name := by
  simp only [lookup, append, Std.ExtTreeMap.getElem?_insert, Std.LawfulEqCmp.compare_eq_iff_eq,
    @eq_comm _ name]

/-- The handle of the field, and whether it is new. -/
def register (r : Registry) (d : FieldDescriptor) : Except Error ((FieldId × Bool) × Registry) :=
  match r.lookup d.name with
  | some field => do
    let existing ← r.descriptor field
    if existing.type = d.type then return ((field, false), r)
    else throw (.typeConflict d.name existing.type.name d.type.name)
  | none =>
    if r.size < maxFields then .ok ((⟨r.size⟩, true), r.append d)
    else .error (.tooManyFields d.name)

def toList (r : Registry) : List (FieldId × FieldDescriptor) :=
  r.descriptors.toList.zipIdx.map fun (d, i) => (⟨i⟩, d)

def names (r : Registry) : List String := r.descriptors.toList.map (·.name)

end Registry
end TrackStore
