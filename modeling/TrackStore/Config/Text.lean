import TrackStore.Error
import TrackStore.Toml.Document

/-! # Settings as text

Settings are written as a TOML document of three keys. In reading, a missing key has its default and
other keys do not matter; a key with a value of another kind is refused.
-/

namespace TrackStore

namespace DoubleDelete

/-- A choice is its name, or the name with nothing in it. -/
def ofToml : Toml.Value → Option DoubleDelete
  | .text s => ofName? s
  | .table _ [(s, .table _ [])] => ofName? s
  | .table _ [(s, .array [])] => ofName? s
  | _ => none

end DoubleDelete

namespace Config

def capacityKey : String := "initial_row_capacity"

def doubleDeleteKey : String := "double_delete"

def validateKey : String := "validate_coordinates"

/-- The value of a key, or its default. -/
def field {α : Type} (t : Toml.Table) (key : String) (default : α) (read : Toml.Value → Option α) :
    Option α :=
  match t.find? key with
  | none => some default
  | some v => read v

def capacityOfToml : Toml.Value → Option Nat
  | .integer n => if 0 ≤ n then some n.toNat else none
  | _ => none

def boolOfToml : Toml.Value → Option Bool
  | .boolean b => some b
  | _ => none

def ofTable (t : Toml.Table) : Option Config := do
  let initialRowCapacity ← field t capacityKey ({} : Config).initialRowCapacity capacityOfToml
  let doubleDelete ← field t doubleDeleteKey ({} : Config).doubleDelete DoubleDelete.ofToml
  let validateCoordinates ← field t validateKey ({} : Config).validateCoordinates boolOfToml
  return { initialRowCapacity, doubleDelete, validateCoordinates }

/-- Reads settings, which must not ask for more room than the maximum. -/
def ofText (text : String) : Except ConfigError Config := do
  let some c := (Toml.read text).bind ofTable | throw .malformed
  c.validate
  return c

/-- The greatest number that a document can hold. -/
def maxWritten : Nat := 0x7fffffffffffffff

/-- Writes settings, whether or not they would be accepted. -/
def toText (c : Config) : Except ConfigError String :=
  if maxWritten < c.initialRowCapacity then .error .unwritable
  else .ok <|
    capacityKey ++ " = " ++ toString c.initialRowCapacity ++ "\n" ++
    doubleDeleteKey ++ " = \"" ++ c.doubleDelete.name ++ "\"\n" ++
    validateKey ++ " = " ++ toString c.validateCoordinates ++ "\n"

/-- Reads settings from the bytes of a file, which may be missing. -/
def ofFile (bytes : Option Bytes) : Except Error Config :=
  match bytes.map Utf8.decode with
  | some (.ok cs) => (ofText (.ofList cs)).mapError .config
  | some (.error _) | none => .error .unreadable

end Config
end TrackStore
