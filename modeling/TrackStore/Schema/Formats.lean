import TrackStore.Schema.Basic

/-! # Schemas of the formats

KW18 has an external number for each track, and for each frame its number, its time, its box in the
image and its place in the world. APIX has the place of the platform for each frame. Whatever the
format, a track can have the format and the file that it was read from, and a frame one coordinate
for scoring, wherever that came from.
-/

namespace TrackStore

structure Kw18Schema where
  schema : Schema
  externalId : Accessor (.unsigned .w64)
  frameNumber : Accessor (.unsigned .w64)
  timestamp : Accessor (.unsigned .w64)
  boundingBox : Accessor .box
  worldX : Accessor .binary64
  worldY : Accessor .binary64
deriving DecidableEq, Repr

namespace Kw18Schema

def externalIdField : FieldDescriptor where
  name := "external_id"
  type := .unsigned .w64
  description := "track id assigned by the source"
  role := .wellKnown

def frameNumberField : FieldDescriptor where
  name := "frame_number"
  type := .unsigned .w64
  description := "frame index in the source video"
  role := .wellKnown

def timestampField : FieldDescriptor where
  name := "timestamp_usecs"
  type := .unsigned .w64
  description := "frame time in microseconds since the epoch"
  role := .wellKnown

def boundingBoxField : FieldDescriptor where
  name := "bounding_box"
  type := .box
  description := "image-space box in pixels"
  role := .wellKnown

def worldXField : FieldDescriptor := { name := "world_x", type := .binary64 }

def worldYField : FieldDescriptor := { name := "world_y", type := .binary64 }

def declare (s : Schema) : StoreM Kw18Schema := do
  let (externalId, s) ← s.declare .track _ externalIdField
  let (frameNumber, s) ← s.declare .frame _ frameNumberField
  let (timestamp, s) ← s.declare .frame _ timestampField
  let (boundingBox, s) ← s.declare .frame _ boundingBoxField
  let (worldX, s) ← s.declare .frame _ worldXField
  let (worldY, s) ← s.declare .frame _ worldYField
  return { schema := s, externalId, frameNumber, timestamp, boundingBox, worldX, worldY }

def new : WorkspaceM Kw18Schema := do
  let s ← Schema.new "kw18"
  Workspace.onStore (declare s)

/-- The same fields with a new host. -/
def clone (k : Kw18Schema) : WorkspaceM Kw18Schema := do
  let schema ← k.schema.duplicate
  return {
    schema
    externalId := k.externalId.bind schema.host
    frameNumber := k.frameNumber.bind schema.host
    timestamp := k.timestamp.bind schema.host
    boundingBox := k.boundingBox.bind schema.host
    worldX := k.worldX.bind schema.host
    worldY := k.worldY.bind schema.host }

/-- The lowest track with an external number. -/
def findTrack (k : Kw18Schema) (s : Store) (number : BitVec 64) : Except Error (Option Row) :=
  k.externalId.lookup s number

/-- The first of the frames with a frame number. -/
def findAmong (k : Kw18Schema) (s : Store) (number : BitVec 64) :
    List Row → Except Error (Option Row)
  | [] => return none
  | frame :: frames => do
    let found : Option (BitVec 64) ← k.frameNumber.getAt s frame
    if found = some number then return some frame
    else k.findAmong s number frames

/-- The first frame of a track with a frame number. -/
def findFrame (k : Kw18Schema) (s : Store) (track : Row) (number : BitVec 64) :
    Except Error (Option Row) := do
  k.findAmong s number (← s.framesAt track)

end Kw18Schema

structure ApixSchema where
  schema : Schema
  latitude : Accessor .binary64
  longitude : Accessor .binary64
deriving DecidableEq, Repr

namespace ApixSchema

def latitudeField : FieldDescriptor where
  name := "apix_latitude"
  type := .binary64
  description := "WGS84 latitude, degrees"
  role := .wellKnown

def longitudeField : FieldDescriptor where
  name := "apix_longitude"
  type := .binary64
  description := "WGS84 longitude, degrees"
  role := .wellKnown

def declare (s : Schema) : StoreM ApixSchema := do
  let (latitude, s) ← s.declare .frame _ latitudeField
  let (longitude, s) ← s.declare .frame _ longitudeField
  return { schema := s, latitude, longitude }

def new : WorkspaceM ApixSchema := do
  let s ← Schema.new "apix"
  Workspace.onStore (declare s)

end ApixSchema

structure SourceFormatSchema where
  schema : Schema
  sourceFormat : Accessor .fileFormat
  sourceFile : Accessor .text
deriving DecidableEq, Repr

namespace SourceFormatSchema

def sourceFormatField : FieldDescriptor where
  name := "source_format"
  type := .fileFormat
  description := "format the track was read from"
  role := .system

def sourceFileField : FieldDescriptor where
  name := "source_file"
  type := .text
  description := "path of the file the track was read from"
  role := .system

def declare (s : Schema) : StoreM SourceFormatSchema := do
  let (sourceFormat, s) ← s.declare .track _ sourceFormatField
  let (sourceFile, s) ← s.declare .track _ sourceFileField
  return { schema := s, sourceFormat, sourceFile }

def new : WorkspaceM SourceFormatSchema := do
  let s ← Schema.new "file_format"
  Workspace.onStore (declare s)

/-- The format that is recorded for a track. -/
def formatOf (f : SourceFormatSchema) (s : Store) (track : Row) : Except Error FileFormat :=
  return (← f.sourceFormat.getAt s track).getD .unknown

/-- Records the format of a track, and its file if there is one. -/
def recordSource (f : SourceFormatSchema) (track : Row) (format : FileFormat)
    (file : Option String) : StoreM Unit := do
  f.sourceFormat.setAt track format
  match file with
  | some file => f.sourceFile.setAt track file
  | none => return

end SourceFormatSchema

structure ScorableGeoSchema where
  schema : Schema
  geoCoord : Accessor .coordinate
deriving DecidableEq, Repr

namespace ScorableGeoSchema

def geoCoordField : FieldDescriptor where
  name := "geo_coord"
  type := .coordinate
  description := "frame geocoordinate used for scoring"
  role := .wellKnown

def declare (s : Schema) : StoreM ScorableGeoSchema := do
  let (geoCoord, s) ← s.declare .frame _ geoCoordField
  return { schema := s, geoCoord }

def new : WorkspaceM ScorableGeoSchema := do
  let s ← Schema.new "scorable_geo"
  Workspace.onStore (declare s)

/-- The same field with a new host. -/
def clone (g : ScorableGeoSchema) : WorkspaceM ScorableGeoSchema := do
  let schema ← g.schema.duplicate
  return { schema, geoCoord := g.geoCoord.bind schema.host }

end ScorableGeoSchema
end TrackStore
