import TrackStore.Wire.Codec
import TrackStore.Config.Basic
import TrackStore.Field.Type
import TrackStore.Geometry

/-! # Field values

The values of each field type, how they are written as bytes, and when two of them count as equal:
numbers by value, so that a NaN equals nothing and the two zeros are equal, all else part by part.
-/

namespace TrackStore

/-- The formats of the files from which tracks are read. -/
inductive FileFormat where
  | unknown
  | kw18
  | apix
  | kpf
  | vatic
  | mitreXml
  | commsXml
  | csv
deriving DecidableEq, Repr

namespace FileFormat

def all : List FileFormat := [unknown, kw18, apix, kpf, vatic, mitreXml, commsXml, csv]

def name : FileFormat → String
  | unknown => "unknown"
  | kw18 => "kw18"
  | apix => "apix"
  | kpf => "kpf"
  | vatic => "vatic"
  | mitreXml => "mitre_xml"
  | commsXml => "comms_xml"
  | csv => "csv"

end FileFormat

namespace Codec

def binary32 : Codec Binary32 :=
  (word 4).iso (fun w => ⟨⟨w⟩⟩) (fun x => x.bits.toBitVec)

def binary64 : Codec Binary64 :=
  (word 8).iso (fun w => ⟨⟨w⟩⟩) (fun x => x.bits.toBitVec)

def box : Codec (Box Binary64) :=
  (binary64.pair (binary64.pair (binary64.pair binary64))).iso
    (fun (x₀, y₀, x₁, y₁) => ⟨x₀, y₀, x₁, y₁⟩) (fun b => (b.minX, b.minY, b.maxX, b.maxY))

def coordinate : Codec Coordinate :=
  (binary64.pair binary64).iso (fun (lat, lon) => ⟨lat, lon⟩) (fun c => (c.latitude, c.longitude))

end Codec

namespace FieldType

/-- Whole numbers of either sign are words; the type tells how to read them. -/
abbrev Value : FieldType → Type
  | unit => Unit
  | bool => Bool
  | unsigned width => BitVec (8 * width.bytes)
  | signed width => BitVec (8 * width.bytes)
  | binary32 => Binary32
  | binary64 => Binary64
  | char => Char
  | text => String
  | option item => Option item.Value
  | list item => List item.Value
  | array length item => Codec.Exactly length item.Value
  | pair first second => first.Value × second.Value
  | box => Box Binary64
  | coordinate => Coordinate
  | fileFormat => FileFormat
  | doubleDelete => DoubleDelete

def codec : (t : FieldType) → Codec t.Value
  | unit => .unit
  | bool => .bool
  | unsigned width => .word width.bytes
  | signed width => .word width.bytes
  | binary32 => .binary32
  | binary64 => .binary64
  | char => .char
  | text => .text
  | option item => item.codec.option
  | list item => item.codec.list
  | array length item => item.codec.array length
  | pair first second => first.codec.pair second.codec
  | box => .box
  | coordinate => .coordinate
  | fileFormat => .choice FileFormat.all
  | doubleDelete => .choice DoubleDelete.all

def encode (t : FieldType) (v : t.Value) : Bytes := t.codec.encode v

/-- The value at the front of the bytes; what follows it does not matter. -/
def decode (t : FieldType) (bytes : Bytes) : Except DecodeError t.Value :=
  (t.codec.decode.run bytes).map Prod.fst

/-- Lists are equal when they have one length and equal items. -/
def equalLists {α : Type} (eq : α → α → Bool) : List α → List α → Bool
  | [], [] => true
  | a :: as, b :: bs => eq a b && equalLists eq as bs
  | _, _ => false

def equals : (t : FieldType) → t.Value → t.Value → Bool
  | unit, _, _ => true
  | bool, a, b => a == b
  | unsigned _, a, b => a == b
  | signed _, a, b => a == b
  | binary32, a, b => a.equals b
  | binary64, a, b => a.equals b
  | char, a, b => a == b
  | text, a, b => a == b
  | option _, none, none => true
  | option item, some a, some b => item.equals a b
  | option _, _, _ => false
  | list item, a, b => equalLists item.equals a b
  | array _ item, a, b => equalLists item.equals a.val b.val
  | pair first second, a, b => first.equals a.1 b.1 && second.equals a.2 b.2
  | box, a, b => a.equals b
  | coordinate, a, b => a.equals b
  | fileFormat, a, b => a == b
  | doubleDelete, a, b => a == b

end FieldType
end TrackStore
