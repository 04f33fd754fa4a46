import TrackStore.Field.Accessor
import TrackStore.Schema.Formats

/-! # Where coordinates come from

The format of a track decides which two fields of its frames hold longitude and latitude. A format
without such fields falls back on two names that the caller gives.
-/

namespace TrackStore

/-- Two field names for tracks whose format has no coordinates of its own. -/
structure GeoFallback where
  longitude : String
  latitude : String
deriving DecidableEq, Repr

inductive GeoSource where
  | kw18
  | apix
  | generic (names : GeoFallback)
deriving DecidableEq, Repr

/-- The two fields of a source, or why they cannot be used. -/
abbrev SourceFields := Except ResolutionReason (Accessor .binary64 × Accessor .binary64)

namespace GeoSource

def ofFormat (format : FileFormat) (fallback : GeoFallback) : GeoSource :=
  match format with
  | .kw18 => kw18
  | .apix => apix
  | _ => generic fallback

def isGeneric : GeoSource → Bool
  | generic _ => true
  | _ => false

def longitudeName : GeoSource → String
  | kw18 => Kw18Schema.worldXField.name
  | apix => ApixSchema.longitudeField.name
  | generic names => names.longitude

def latitudeName : GeoSource → String
  | kw18 => Kw18Schema.worldYField.name
  | apix => ApixSchema.latitudeField.name
  | generic names => names.latitude

/-- The names that are looked at, longitude first. -/
def fieldNames (g : GeoSource) : List String := [g.longitudeName, g.latitudeName]

/-- A field of numbers with that name, if it is one. Nothing is registered. -/
def field (g : GeoSource) (s : Store) (name : String) :
    Except Error (Except ResolutionReason (Accessor .binary64)) :=
  match Accessor.existing .binary64 s name with
  | .ok (some a) => .ok (.ok a)
  | .ok none => .ok (.error (.noSourceField g.fieldNames))
  | .error (.typeConflict _ existing _) => .ok (.error (.sourceTypeConflict name existing))
  | .error e => .error e

/-- The fields of longitude and latitude, looked for in that order. -/
def resolve (g : GeoSource) (s : Store) : Except Error SourceFields := do
  match ← g.field s g.longitudeName with
  | .error reason => return .error reason
  | .ok longitude =>
    match ← g.field s g.latitudeName with
    | .error reason => return .error reason
    | .ok latitude => return .ok (longitude, latitude)

end GeoSource

/-- The fields of the sources that were looked for already. -/
structure SourceCache where
  kw18 : Option SourceFields := none
  apix : Option SourceFields := none
  generic : Option SourceFields := none

namespace SourceCache

def find (c : SourceCache) : GeoSource → Option SourceFields
  | .kw18 => c.kw18
  | .apix => c.apix
  | .generic _ => c.generic

def put (c : SourceCache) (fields : SourceFields) : GeoSource → SourceCache
  | .kw18 => { c with kw18 := some fields }
  | .apix => { c with apix := some fields }
  | .generic _ => { c with generic := some fields }

/-- The fields of a source, from memory where they are there. -/
def fields (c : SourceCache) (s : Store) (source : GeoSource) :
    Except Error (SourceFields × SourceCache) :=
  match c.find source with
  | some fields => return (fields, c)
  | none => do
    let fields ← source.resolve s
    return (fields, c.put fields source)

end SourceCache
end TrackStore
