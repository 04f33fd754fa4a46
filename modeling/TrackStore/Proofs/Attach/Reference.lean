import TrackStore.Geo.Attach
import TrackStore.Proofs.Typed
import Mathlib.Algebra.Ring.Nat

/-! # What attaching coordinates comes to

The outcome of each frame, read off one store frame by frame: no field is looked up beforehand, none
is kept from one track to the next, and nothing is written in between. The sources of the formats
and the names of their fields are listed here anew, and so is what keeps a coordinate on the globe.
Then what the lookups of the walk answer in a well-formed store, in these terms.
-/
namespace TrackStore

/-- Two formats have fields of their own for coordinates, and the others have none. -/
def FileFormat.coordinateSource (fallback : GeoFallback) : FileFormat → GeoSource
  | kw18 => .kw18
  | apix => .apix
  | unknown | kpf | vatic | mitreXml | commsXml | csv => .generic fallback

theorem FileFormat.coordinateSource_eq (format : FileFormat) (fallback : GeoFallback) :
    format.coordinateSource fallback = .ofFormat format fallback := by
  cases format <;> rfl

/-- The names of longitude and latitude. -/
def GeoSource.coordinateNames : GeoSource → String × String
  | kw18 => ("world_x", "world_y")
  | apix => ("apix_longitude", "apix_latitude")
  | generic names => (names.longitude, names.latitude)

theorem GeoSource.coordinateNames_eq (source : GeoSource) :
    source.coordinateNames = (source.longitudeName, source.latitudeName) := by
  cases source <;> rfl

theorem GeoSource.fieldNames_eq (source : GeoSource) :
    source.fieldNames = [source.coordinateNames.1, source.coordinateNames.2] := by
  cases source <;> rfl

theorem GeoSource.isGeneric_coordinateSource (format : FileFormat) (fallback : GeoFallback) :
    (format.coordinateSource fallback).isGeneric =
      decide (format.coordinateSource fallback = generic fallback) := by
  cases format <;> simp [isGeneric, FileFormat.coordinateSource]

/-- How a format is called in a report. -/
def FileFormat.label : FileFormat → String
  | unknown => "unknown"
  | kw18 => "kw18"
  | apix => "apix"
  | kpf => "kpf"
  | vatic => "vatic"
  | mitreXml => "mitre_xml"
  | commsXml => "comms_xml"
  | csv => "csv"

theorem FileFormat.label_eq (format : FileFormat) : format.label = format.name := by
  cases format <;> rfl

/-- Latitude within 90 degrees of zero, and longitude within 180. The farther a number is from zero
the greater its magnitude, and those of infinities and NaNs are greater than all others. -/
def Coordinate.OnGlobe (c : Coordinate) : Prop :=
  c.latitude.magnitude ≤ 0x4056800000000000 ∧ c.longitude.magnitude ≤ 0x4066800000000000

instance (c : Coordinate) : Decidable c.OnGlobe := inferInstanceAs (Decidable (_ ∧ _))

theorem Coordinate.isValid_iff (c : Coordinate) : c.isValid = true ↔ c.OnGlobe := by
  have hlat : c.latitude.abs ≤ 90 ↔ c.latitude.magnitude ≤ 0x4056800000000000 :=
    c.latitude.abs_le_iff (by decide)
  have hlon : c.longitude.abs ≤ 180 ↔ c.longitude.magnitude ≤ 0x4066800000000000 :=
    c.longitude.abs_le_iff (by decide)
  have hinf : Binary64.infinityMagnitude = 0x7ff0000000000000 := rfl
  simp only [isValid, OnGlobe, Binary64.isFinite, Bool.and_eq_true, decide_eq_true_eq, hlat, hlon]
  omega

namespace Store

/-- The field of that name with its description. -/
def fieldNamed (s : Store) (name : String) : Option (FieldId × FieldDescriptor) := do
  let field ← s.lookupField name
  let d ← s.registry.descriptors[field.index]?
  return (field, d)

/-- The field that records formats, if a field of that name does. -/
def formatsField (s : Store) : Option FieldId :=
  match s.fieldNamed "source_format" with
  | none => none
  | some (field, d) => if d.type = .fileFormat then some field else none

/-- The format of a track: what is recorded for it, if formats are recorded at all. -/
def recordedFormat (s : Store) (track : Row) : FileFormat :=
  match s.formatsField with
  | none => .unknown
  | some field => (s.valueAt .fileFormat field track).getD .unknown

def recordedSource (s : Store) (fallback : GeoFallback) (track : Row) : GeoSource :=
  (s.recordedFormat track).coordinateSource fallback

/-- A field of numbers, or why there is none of that name. -/
def numberField (s : Store) (source : GeoSource) (name : String) :
    Except ResolutionReason FieldId :=
  match s.fieldNamed name with
  | none => .error (.noSourceField [source.coordinateNames.1, source.coordinateNames.2])
  | some (field, d) =>
    if d.type = .binary64 then .ok field else .error (.sourceTypeConflict name d.type.name)

/-- The fields of longitude and latitude; where both are missing, the longitude tells why. -/
def numberFields (s : Store) (source : GeoSource) : Except ResolutionReason (FieldId × FieldId) :=
  match s.numberField source source.coordinateNames.1,
    s.numberField source source.coordinateNames.2 with
  | .error reason, _ => .error reason
  | .ok _, .error reason => .error reason
  | .ok longitude, .ok latitude => .ok (longitude, latitude)

/-- The coordinate that the values of two fields make at a frame, or why they make none. -/
def coordinateAt (s : Store) (source : GeoSource) (longitude latitude : FieldId) (frame : Row) :
    Except ResolutionReason Coordinate :=
  match s.valueAt .binary64 longitude frame, s.valueAt .binary64 latitude frame with
  | some lon, some lat =>
    if s.config.validateCoordinates = true ∧ ¬ (Coordinate.mk lat lon).OnGlobe then
      .error (.outOfRange lat lon)
    else .ok ⟨lat, lon⟩
  | _, _ => .error (.noSourceField [source.coordinateNames.1, source.coordinateNames.2])

def frameOutcome (s : Store) (source : GeoSource) (frame : Row) :
    Except ResolutionReason Coordinate :=
  match s.numberFields source with
  | .error reason => .error reason
  | .ok (longitude, latitude) => s.coordinateAt source longitude latitude frame

end Store

/-- A frame at its place in a track. -/
structure Visit where
  track : Row
  index : Nat
  frame : Row
deriving DecidableEq, Repr

namespace Visit

/-- The visits to frames of a track, the first of which stands at `index`. -/
def along (track : Row) (index : Nat) (frames : List Row) : List Visit :=
  (frames.zipIdx index).map fun (frame, i) => ⟨track, i, frame⟩

@[simp] theorem along_nil (track : Row) (index : Nat) : along track index [] = [] := rfl

theorem along_cons (track : Row) (index : Nat) (frame : Row) (frames : List Row) :
    along track index (frame :: frames) =
      [⟨track, index, frame⟩] ++ along track (index + 1) frames := rfl

def source (v : Visit) (s : Store) (fallback : GeoFallback) : GeoSource :=
  s.recordedSource fallback v.track

def outcome (v : Visit) (s : Store) (fallback : GeoFallback) : Except ResolutionReason Coordinate :=
  s.frameOutcome (v.source s fallback) v.frame

def attaches (v : Visit) (s : Store) (fallback : GeoFallback) : Bool :=
  (v.outcome s fallback).isOk

def failure? (v : Visit) (s : Store) (fallback : GeoFallback) : Option ResolutionFailure :=
  match v.outcome s fallback with
  | .ok _ => none
  | .error reason => some ⟨v.track, v.frame, v.index, (s.recordedFormat v.track).label, reason⟩

end Visit

namespace Store

/-- The frames of all tracks, in the order of the walk; a repeated track is walked again. -/
def visits (s : Store) (tracks : List Row) : List Visit :=
  tracks.flatMap fun track => Visit.along track 0 (s.framesOf track)

/-- The coordinates that come out of visits, in order. -/
def writes (s : Store) (fallback : GeoFallback) (vs : List Visit) : List (Row × Coordinate) :=
  vs.filterMap fun v => (v.outcome s fallback).toOption.map (v.frame, ·)

/-- The report of a walk, counted frame by frame. -/
def expectedReport (s : Store) (fallback : GeoFallback) (tracks : List Row) : AttachReport where
  tracks := tracks.length
  frames := (tracks.map fun track => (s.framesOf track).length).sum
  attached := (s.visits tracks).countP (·.attaches s fallback)
  usedFallback := (s.visits tracks).any fun v =>
    v.attaches s fallback && v.source s fallback = .generic fallback
  failures := (s.visits tracks).filterMap (·.failure? s fallback)

@[simp] theorem visits_nil (s : Store) : s.visits [] = [] := rfl

theorem visits_cons (s : Store) (track : Row) (tracks : List Row) :
    s.visits (track :: tracks) = Visit.along track 0 (s.framesOf track) ++ s.visits tracks := rfl

@[simp] theorem writes_nil (s : Store) (fallback : GeoFallback) : s.writes fallback [] = [] := rfl

theorem writes_append (s : Store) (fallback : GeoFallback) (vs us : List Visit) :
    s.writes fallback (vs ++ us) = s.writes fallback vs ++ s.writes fallback us :=
  List.filterMap_append

theorem writes_of_ok {s : Store} {fallback : GeoFallback} {v : Visit} {c : Coordinate}
    (h : v.outcome s fallback = .ok c) : s.writes fallback [v] = [(v.frame, c)] := by
  simp [writes, h, Except.toOption]

theorem writes_of_error {s : Store} {fallback : GeoFallback} {v : Visit} {reason : ResolutionReason}
    (h : v.outcome s fallback = .error reason) : s.writes fallback [v] = [] := by
  simp [writes, h, Except.toOption]

/-- A live track all of whose values that the walk reads can be read: its format, and longitude and
latitude of its frames if its source has the fields. -/
structure Walkable (s : Store) (fallback : GeoFallback) (track : Row) : Prop where
  live : s.isLive track = true
  format : ∀ field, s.formatsField = some field → s.Readable .fileFormat field track
  numbers : ∀ longitude latitude,
    s.numberFields (s.recordedSource fallback track) = .ok (longitude, latitude) →
      ∀ frame ∈ s.framesOf track,
        s.Readable .binary64 longitude frame ∧ s.Readable .binary64 latitude frame

/-- The format of a track can be read, if formats are recorded at all. -/
def LegibleFormat (s : Store) (track : Row) : Prop :=
  ∀ field, s.formatsField = some field → s.Readable .fileFormat field track

/-- Longitude and latitude of a frame can be read, if the source has the fields. -/
def LegibleFrame (s : Store) (source : GeoSource) (frame : Row) : Prop :=
  ∀ longitude latitude, s.numberFields source = .ok (longitude, latitude) →
    s.Readable .binary64 longitude frame ∧ s.Readable .binary64 latitude frame

theorem walkable_iff {s : Store} {fallback : GeoFallback} {track : Row} :
    s.Walkable fallback track ↔ s.isLive track = true ∧ s.LegibleFormat track ∧
      ∀ frame ∈ s.framesOf track, s.LegibleFrame (s.recordedSource fallback track) frame := by
  constructor
  · rintro ⟨hlive, hformat, hnumbers⟩
    exact ⟨hlive, hformat, fun frame hframe lon lat hpair => hnumbers lon lat hpair frame hframe⟩
  · rintro ⟨hlive, hformat, hframes⟩
    exact ⟨hlive, hformat, fun lon lat hpair frame hframe => hframes frame hframe lon lat hpair⟩

instance (s : Store) (track : Row) : Decidable (s.LegibleFormat track) :=
  inferInstanceAs (Decidable (∀ field ∈ s.formatsField, s.Readable .fileFormat field track))

instance (s : Store) (source : GeoSource) (frame : Row) : Decidable (s.LegibleFrame source frame) :=
  decidable_of_iff (∀ pair ∈ (s.numberFields source).toOption,
      s.Readable .binary64 pair.1 frame ∧ s.Readable .binary64 pair.2 frame) <| by
    unfold LegibleFrame
    cases s.numberFields source with
    | error reason => simp [Except.toOption]
    | ok pair => cases pair; simp [Except.toOption]

instance (s : Store) (fallback : GeoFallback) (track : Row) :
    Decidable (s.Walkable fallback track) :=
  decidable_of_iff _ walkable_iff.symm

section Lookups
variable {s : Store}

theorem checkType_of_fieldNamed {name : String} {field : FieldId} {d : FieldDescriptor}
    (h : s.fieldNamed name = some (field, d)) : s.checkType d.type field = .ok () := by
  simp only [fieldNamed, bind, Option.bind_eq_some_iff, pure, Option.some.injEq, Prod.mk.injEq] at h
  obtain ⟨f, -, d', hd, rfl, rfl⟩ := h
  exact (checkType_eq_ok ..).mpr ⟨d', by simp [describeField, Registry.descriptor, hd], rfl⟩

theorem checkType_of_formatsField {field : FieldId} (h : s.formatsField = some field) :
    s.checkType .fileFormat field = .ok () := by
  unfold formatsField at h
  split at h
  next => cases h
  next found d hfound =>
    obtain ⟨ht, hf⟩ := Option.ite_none_right_eq_some.mp h
    cases hf
    exact ht ▸ checkType_of_fieldNamed hfound

theorem checkType_of_numberField {source : GeoSource} {name : String} {field : FieldId}
    (h : s.numberField source name = .ok field) : s.checkType .binary64 field = .ok () := by
  unfold numberField at h
  split at h
  next => cases h
  next found d hfound =>
    split at h
    next ht =>
      cases h
      exact ht ▸ checkType_of_fieldNamed hfound
    next => cases h

theorem checkType_of_numberFields {source : GeoSource} {longitude latitude : FieldId}
    (h : s.numberFields source = .ok (longitude, latitude)) :
    s.checkType .binary64 longitude = .ok () ∧ s.checkType .binary64 latitude = .ok () := by
  unfold numberFields at h
  split at h
  next => cases h
  next => cases h
  next hlon hlat =>
    cases h
    exact ⟨checkType_of_numberField hlon, checkType_of_numberField hlat⟩

theorem existing_eq (hs : s.registry.WellFormed) (t : FieldType) (name : String) :
    Accessor.existing t s name = match s.fieldNamed name with
      | none => .ok none
      | some (field, d) =>
        if d.type = t then .ok (some { field, name })
        else .error (.typeConflict name d.type.name t.name) := by
  unfold Accessor.existing fieldNamed
  cases hl : s.lookupField name with
  | none => rfl
  | some field =>
    obtain ⟨d, hd, -⟩ := (hs name field).mp hl
    by_cases ht : d.type = t <;>
      simp [describeField, Registry.descriptor, hd, ht, bind, Except.bind, pure, Except.pure, throw,
        throwThe, MonadExceptOf.throw]

/-- The accessor with which the walk reads formats. -/
def formatsAccessor (s : Store) : Option (Accessor .fileFormat) :=
  s.formatsField.map fun field => { field, name := SourceFormatSchema.sourceFormatField.name }

theorem formatField_eq (hs : s.registry.WellFormed) :
    ScorableGeoSchema.formatField s = .ok s.formatsAccessor := by
  have hname : SourceFormatSchema.sourceFormatField.name = "source_format" := rfl
  rw [ScorableGeoSchema.formatField, existing_eq hs, formatsAccessor, formatsField, hname]
  cases s.fieldNamed "source_format" with
  | none => rfl
  | some found =>
    obtain ⟨field, d⟩ := found
    by_cases ht : d.type = .fileFormat <;> simp [ht]

theorem field_eq (hs : s.registry.WellFormed) (source : GeoSource) (name : String) :
    source.field s name =
      .ok ((s.numberField source name).map fun field => { field, name }) := by
  rw [GeoSource.field, existing_eq hs, numberField, source.coordinateNames_eq]
  cases s.fieldNamed name with
  | none => rfl
  | some found =>
    obtain ⟨field, d⟩ := found
    by_cases ht : d.type = .binary64 <;> simp [ht, Except.map]

/-- The fields that the walk finds for a source. -/
def sourceFields (s : Store) (source : GeoSource) : SourceFields :=
  (s.numberFields source).map fun (longitude, latitude) =>
    ({ field := longitude, name := source.longitudeName },
      { field := latitude, name := source.latitudeName })

theorem resolve_eq (hs : s.registry.WellFormed) (source : GeoSource) :
    source.resolve s = .ok (s.sourceFields source) := by
  simp only [GeoSource.resolve, field_eq hs, sourceFields, numberFields, source.coordinateNames_eq]
  cases s.numberField source source.longitudeName with
  | error reason => rfl
  | ok longitude => cases s.numberField source source.latitudeName <;> rfl

end Lookups

end Store
end TrackStore
