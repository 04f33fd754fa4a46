import TrackStore.Geo.Source
import TrackStore.Schema.Formats

/-! # Attaching coordinates

Walks tracks and their frames, reads each frame's longitude and latitude from the fields of the
format of its track, and writes them as the coordinate for scoring. A frame without a usable
coordinate is reported and does not stop the walk; a track that is not live, and a value that
cannot be read, do.
-/

namespace TrackStore

/-- What a walk did. -/
structure AttachReport where
  tracks : Nat := 0
  frames : Nat := 0
  attached : Nat := 0
  /-- Whether some frame got its coordinate through the names of the caller. -/
  usedFallback : Bool := false
  /-- The frames that got none, in the order of the walk. -/
  failures : List ResolutionFailure := []
deriving DecidableEq, Repr

namespace AttachReport

def isComplete (r : AttachReport) : Bool := r.failures.isEmpty

def failuresFor (r : AttachReport) (track : Row) : List ResolutionFailure :=
  r.failures.filter (·.track == track)

/-- A report with failures as an error, which shows the first. -/
def toExcept (r : AttachReport) : Except Error AttachReport :=
  match r.failures with
  | [] => .ok r
  | first :: _ => .error (.unresolved r.failures.length first)

def countTrack (r : AttachReport) : AttachReport := { r with tracks := r.tracks + 1 }

def countAttached (r : AttachReport) (source : GeoSource) : AttachReport :=
  { r with
    frames := r.frames + 1
    attached := r.attached + 1
    usedFallback := r.usedFallback || source.isGeneric }

def countFailure (r : AttachReport) (f : ResolutionFailure) : AttachReport :=
  { r with frames := r.frames + 1, failures := r.failures ++ [f] }

end AttachReport

/-- A track in the middle of the walk. -/
structure TrackSource where
  track : Row
  format : FileFormat
  source : GeoSource
  fields : SourceFields

namespace TrackSource

/-- The coordinate of a frame, or why it has none. Both values are read before either is judged. -/
def coordinate (t : TrackSource) (s : Store) (frame : Row) :
    Except Error (Except ResolutionReason Coordinate) :=
  match t.fields with
  | .error reason => return .error reason
  | .ok (longitudeField, latitudeField) => do
    let longitude ← longitudeField.getAt s frame
    let latitude ← latitudeField.getAt s frame
    match longitude, latitude with
    | some longitude, some latitude =>
      let c : Coordinate := ⟨latitude, longitude⟩
      if s.config.validateCoordinates && !c.isValid then
        return .error (.outOfRange latitude longitude)
      else return .ok c
    | _, _ => return .error (.noSourceField t.source.fieldNames)

def failure (t : TrackSource) (index : Nat) (frame : Row) (reason : ResolutionReason) :
    ResolutionFailure :=
  ⟨t.track, frame, index, t.format.name, reason⟩

end TrackSource

namespace ScorableGeoSchema

/-- Handles one frame, which stands at `index` in its track. -/
def attachFrame (g : ScorableGeoSchema) (t : TrackSource) (index : Nat) (frame : Row)
    (report : AttachReport) : StoreM AttachReport := do
  match ← Store.query fun s => t.coordinate s frame with
  | .ok c =>
    g.geoCoord.setAt frame c
    return report.countAttached t.source
  | .error reason => return report.countFailure (t.failure index frame reason)

/-- Handles frames, the first of which stands at `index`. -/
def attachFrames (g : ScorableGeoSchema) (t : TrackSource) (index : Nat) (frames : List Row)
    (report : AttachReport) : StoreM AttachReport :=
  match frames with
  | [] => return report
  | frame :: frames => do
    let report ← g.attachFrame t index frame report
    g.attachFrames t (index + 1) frames report

/-- The field that records formats, if there is one of that type. -/
def formatField (s : Store) : Except Error (Option (Accessor .fileFormat)) :=
  match Accessor.existing .fileFormat s SourceFormatSchema.sourceFormatField.name with
  | .ok a => .ok a
  | .error (.typeConflict ..) => .ok none
  | .error e => .error e

/-- What the walk needs to know of a track before its frames. -/
def trackSource (s : Store) (formats : Option (Accessor .fileFormat)) (fallback : GeoFallback)
    (cache : SourceCache) (track : Row) : Except Error (TrackSource × SourceCache) := do
  s.checkRow track
  let format ← match formats with
    | some a => pure ((← a.getAt s track).getD .unknown)
    | none => pure .unknown
  let source := GeoSource.ofFormat format fallback
  let (fields, cache) ← cache.fields s source
  return (⟨track, format, source, fields⟩, cache)

/-- Handles tracks, with the sources looked for so far. -/
def attachTracks (g : ScorableGeoSchema) (formats : Option (Accessor .fileFormat))
    (fallback : GeoFallback) (cache : SourceCache) (tracks : List Row) (report : AttachReport) :
    StoreM AttachReport :=
  match tracks with
  | [] => return report
  | track :: tracks => do
    let (t, cache) ← Store.query fun s => trackSource s formats fallback cache track
    let frames ← Store.query fun s => s.framesAt track
    let report ← g.attachFrames t 0 frames report.countTrack
    g.attachTracks formats fallback cache tracks report

/-- Attaches a coordinate to every frame of the tracks that has a usable one. -/
def attach (g : ScorableGeoSchema) (tracks : List Row) (fallback : GeoFallback) :
    StoreM AttachReport := do
  let formats ← Store.query formatField
  g.attachTracks formats fallback {} tracks {}

end ScorableGeoSchema
end TrackStore
