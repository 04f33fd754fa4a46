/-! # Settings of a store

How many rows a store has room for from the start, what it does when a row is deleted again, and
whether coordinates are checked when they are attached.
-/

namespace TrackStore

/-- What deleting a row does that was deleted before. -/
inductive DoubleDelete where
  | ignore
  | error
deriving DecidableEq, Repr

namespace DoubleDelete

def all : List DoubleDelete := [ignore, error]

def name : DoubleDelete → String
  | ignore => "ignore"
  | error => "error"

def ofName? (s : String) : Option DoubleDelete := all.find? (·.name == s)

end DoubleDelete

/-- Why settings are refused. -/
inductive ConfigError where
  /-- The text is not a document, or a key has a value of another kind. -/
  | malformed
  /-- The number is too great to be written. -/
  | unwritable
  | capacityTooGreat (capacity maximum : Nat)
deriving DecidableEq, Repr

structure Config where
  initialRowCapacity : Nat := 1024
  doubleDelete : DoubleDelete := .ignore
  validateCoordinates : Bool := true
deriving DecidableEq, Repr

namespace Config

instance : Inhabited Config := ⟨{}⟩

/-- The greatest room that may be asked for beforehand; a store grows beyond it when it must. -/
def maxRowCapacity : Nat := 67108864

/-- The room that a store starts with. -/
def roomForRows (c : Config) : Nat := min c.initialRowCapacity maxRowCapacity

/-- Settings that ask for more room than the maximum are refused. -/
def validate (c : Config) : Except ConfigError Unit :=
  if maxRowCapacity < c.initialRowCapacity then
    .error (.capacityTooGreat c.initialRowCapacity maxRowCapacity)
  else .ok ()

end Config
end TrackStore
