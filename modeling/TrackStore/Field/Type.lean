/-! # Fields and their types

A field is named by its place in the order of registration. The types that its values can have are
closed under optional values, lists, arrays of fixed length and pairs. Each has a name of its own,
which error texts show.
-/

namespace TrackStore

structure FieldId where
  index : Nat
deriving DecidableEq, Repr

def FieldId.text (field : FieldId) : String := s!"field#{field.index}"

/-- The width of a whole number. -/
inductive Width where
  | w8
  | w16
  | w32
  | w64
deriving DecidableEq, Repr

namespace Width

def bytes : Width → Nat
  | w8 => 1
  | w16 => 2
  | w32 => 4
  | w64 => 8

def bits (w : Width) : Nat := 8 * w.bytes

end Width

inductive FieldType where
  | unit
  | bool
  | unsigned (width : Width)
  | signed (width : Width)
  | binary32
  | binary64
  | char
  | text
  | option (item : FieldType)
  | list (item : FieldType)
  | array (length : Nat) (item : FieldType)
  | pair (first second : FieldType)
  | box
  | coordinate
  | fileFormat
  | doubleDelete
deriving DecidableEq, Repr

namespace FieldType

def name : FieldType → String
  | unit => "()"
  | bool => "bool"
  | unsigned width => s!"u{width.bits}"
  | signed width => s!"i{width.bits}"
  | binary32 => "f32"
  | binary64 => "f64"
  | char => "char"
  | text => "alloc::string::String"
  | option item => s!"core::option::Option<{item.name}>"
  | list item => s!"alloc::vec::Vec<{item.name}>"
  | array length item => s!"[{item.name}; {length}]"
  | pair first second => s!"({first.name}, {second.name})"
  | box => "track_oracle::schemas::types::BoundingBox"
  | coordinate => "track_oracle::schemas::types::GeoCoord"
  | fileFormat => "track_oracle::schemas::file_format::FileFormat"
  | doubleDelete => "track_oracle::core::config::DoubleDeletePolicy"

end FieldType
end TrackStore
