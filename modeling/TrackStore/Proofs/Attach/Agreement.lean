import TrackStore.Proofs.Attach.Obstacle

/-! # Stores that agree on what is read

Two stores agree for a walk when they have the same tracks and frames and hold the same in the
fields that the walk reads, whose handles may differ. Every frame then has one outcome in both, and
what stops the walk over one stops it over the other.
-/
namespace TrackStore.Store

/-- The type of the field of that name, if there is one. -/
def typeNamed (s : Store) (name : String) : Option FieldType := (s.fieldNamed name).map (·.2.type)

/-- What the field of that name holds at a row. -/
def slotNamed (s : Store) (name : String) (row : Row) : Option Bytes :=
  (s.fieldNamed name).bind fun (field, _) => s.slot field row

/-- Both stores have a field of that name with the same type, or neither has one; where it has the
type with which it is read, it holds the same at the rows. -/
structure SameNamed (type : FieldType) (name : String) (rows : List Row) (s t : Store) : Prop where
  type_eq : s.typeNamed name = t.typeNamed name
  slot_eq : s.typeNamed name = some type →
    ∀ row ∈ rows, s.slotNamed name row = t.slotNamed name row

/-- Both stores have the same fields of a source and the same numbers in them. The latitude is
looked for only after a longitude, so it does not count where there is none. -/
structure SameNumbers (source : GeoSource) (frames : List Row) (s t : Store) : Prop where
  longitude : SameNamed .binary64 source.longitudeName frames s t
  latitude : s.typeNamed source.longitudeName = some .binary64 →
    SameNamed .binary64 source.latitudeName frames s t

/-- The stores agree on the tracks and their frames, on the formats of the tracks, and on the
numbers of the frames in the fields of the sources that these formats have. -/
structure SameInputs (fallback : GeoFallback) (tracks : List Row) (s t : Store) : Prop where
  validates : s.config.validateCoordinates = t.config.validateCoordinates
  live : ∀ track ∈ tracks, s.isLive track = t.isLive track
  frames : ∀ track ∈ tracks, s.framesOf track = t.framesOf track
  formats : SameNamed .fileFormat SourceFormatSchema.sourceFormatField.name tracks s t
  numbers : ∀ track ∈ tracks, s.isLive track = true → s.LegibleFormat track →
    SameNumbers (s.recordedSource fallback track) (s.framesOf track) s t

variable {s t : Store}

instance (type : FieldType) (name : String) (rows : List Row) :
    Decidable (SameNamed type name rows s t) :=
  decidable_of_iff (s.typeNamed name = t.typeNamed name ∧ (s.typeNamed name = some type →
    ∀ row ∈ rows, s.slotNamed name row = t.slotNamed name row))
    ⟨fun ⟨htype, hslot⟩ => ⟨htype, hslot⟩, fun ⟨htype, hslot⟩ => ⟨htype, hslot⟩⟩

instance (source : GeoSource) (frames : List Row) : Decidable (SameNumbers source frames s t) :=
  decidable_of_iff (SameNamed .binary64 source.longitudeName frames s t ∧
      (s.typeNamed source.longitudeName = some .binary64 →
        SameNamed .binary64 source.latitudeName frames s t))
    ⟨fun ⟨hlon, hlat⟩ => ⟨hlon, hlat⟩, fun ⟨hlon, hlat⟩ => ⟨hlon, hlat⟩⟩

instance (fallback : GeoFallback) (tracks : List Row) :
    Decidable (SameInputs fallback tracks s t) :=
  decidable_of_iff (s.config.validateCoordinates = t.config.validateCoordinates ∧
      (∀ track ∈ tracks, s.isLive track = t.isLive track) ∧
      (∀ track ∈ tracks, s.framesOf track = t.framesOf track) ∧
      SameNamed .fileFormat SourceFormatSchema.sourceFormatField.name tracks s t ∧
      ∀ track ∈ tracks, s.isLive track = true → s.LegibleFormat track →
        SameNumbers (s.recordedSource fallback track) (s.framesOf track) s t)
    ⟨fun ⟨hvalidates, hlive, hframes, hformats, hnumbers⟩ =>
        ⟨hvalidates, hlive, hframes, hformats, hnumbers⟩,
      fun ⟨hvalidates, hlive, hframes, hformats, hnumbers⟩ =>
        ⟨hvalidates, hlive, hframes, hformats, hnumbers⟩⟩

section Slots
variable {type : FieldType} {field field' : FieldId} {row : Row}

theorem Readable.congr (h : s.slot field row = t.slot field' row)
    (hread : s.Readable type field row) : t.Readable type field' row :=
  fun bytes hbytes => hread bytes (h.trans hbytes)

theorem Unreadable.congr (h : s.slot field row = t.slot field' row) {cause : DecodeError}
    (hcause : s.Unreadable type field row cause) : t.Unreadable type field' row cause := by
  obtain ⟨bytes, hslot, hdecode⟩ := hcause
  exact ⟨bytes, h.symm.trans hslot, hdecode⟩

theorem valueAt_congr (h : s.slot field row = t.slot field' row) (type : FieldType) :
    s.valueAt type field row = t.valueAt type field' row := by
  rw [valueAt, valueAt, h]

end Slots

namespace SameNamed

variable {type : FieldType} {name : String} {rows : List Row}

theorem fieldNamed (h : SameNamed type name rows s t) :
    (s.fieldNamed name = none ∧ t.fieldNamed name = none) ∨
      ∃ field field' d d', s.fieldNamed name = some (field, d) ∧
        t.fieldNamed name = some (field', d') ∧ d.type = d'.type ∧
        (d.type = type → ∀ row ∈ rows, s.slot field row = t.slot field' row) := by
  have htype := h.type_eq
  have hslot := h.slot_eq
  simp only [typeNamed, slotNamed] at htype hslot
  rcases hs : s.fieldNamed name with _ | ⟨field, d⟩ <;>
    rcases ht : t.fieldNamed name with _ | ⟨field', d'⟩
  · exact .inl ⟨rfl, rfl⟩
  · simp [hs, ht] at htype
  · simp [hs, ht] at htype
  · simp only [hs, ht, Option.map_some, Option.some.injEq, Option.bind_some] at htype hslot
    exact .inr ⟨field, field', d, d', rfl, rfl, htype, hslot⟩

theorem formatsField (h : SameNamed .fileFormat "source_format" rows s t) :
    (s.formatsField = none ∧ t.formatsField = none) ∨
      ∃ field field', s.formatsField = some field ∧ t.formatsField = some field' ∧
        ∀ row ∈ rows, s.slot field row = t.slot field' row := by
  simp only [Store.formatsField]
  rcases h.fieldNamed with ⟨hs, ht⟩ | ⟨field, field', d, d', hs, ht, htype, hslot⟩
  · simp [hs, ht]
  · by_cases hd : d.type = .fileFormat
    · exact .inr ⟨field, field', by simp [hs, hd], by simp [ht, ← htype, hd], hslot hd⟩
    · exact .inl ⟨by simp [hs, hd], by simp [ht, ← htype, hd]⟩

theorem numberField (h : SameNamed .binary64 name rows s t) (source : GeoSource) :
    (∃ reason, s.numberField source name = .error reason ∧
        t.numberField source name = .error reason) ∨
      ∃ field field', s.numberField source name = .ok field ∧
        t.numberField source name = .ok field' ∧
        ∀ row ∈ rows, s.slot field row = t.slot field' row := by
  simp only [Store.numberField]
  rcases h.fieldNamed with ⟨hs, ht⟩ | ⟨field, field', d, d', hs, ht, htype, hslot⟩
  · exact .inl ⟨.noSourceField [source.coordinateNames.1, source.coordinateNames.2],
      by simp [hs], by simp [ht]⟩
  · by_cases hd : d.type = .binary64
    · exact .inr ⟨field, field', by simp [hs, hd], by simp [ht, ← htype, hd], hslot hd⟩
    · exact .inl ⟨.sourceTypeConflict name d.type.name, by simp [hs, hd],
        by simp [ht, ← htype, hd]⟩

end SameNamed

theorem typeNamed_of_numberField {source : GeoSource} {name : String} {field : FieldId}
    (h : s.numberField source name = .ok field) : s.typeNamed name = some .binary64 := by
  unfold numberField at h
  split at h
  next => cases h
  next found d hfound =>
    split at h
    next htype => simp [typeNamed, hfound, htype]
    next => cases h

theorem SameNumbers.numberFields {source : GeoSource} {frames : List Row}
    (h : SameNumbers source frames s t) :
    (∃ reason, s.numberFields source = .error reason ∧ t.numberFields source = .error reason) ∨
      ∃ longitude latitude longitude' latitude',
        s.numberFields source = .ok (longitude, latitude) ∧
        t.numberFields source = .ok (longitude', latitude') ∧
        ∀ frame ∈ frames, s.slot longitude frame = t.slot longitude' frame ∧
          s.slot latitude frame = t.slot latitude' frame := by
  simp only [Store.numberFields, source.coordinateNames_eq]
  rcases h.longitude.numberField source with
    ⟨reason, hs, ht⟩ | ⟨longitude, longitude', hs, ht, hslot⟩
  · exact .inl ⟨reason, by simp [hs], by simp [ht]⟩
  · rcases (h.latitude (typeNamed_of_numberField hs)).numberField source with
      ⟨reason, hs', ht'⟩ | ⟨latitude, latitude', hs', ht', hslot'⟩
    · exact .inl ⟨reason, by simp [hs, hs'], by simp [ht, ht']⟩
    · exact .inr ⟨longitude, latitude, longitude', latitude', by simp [hs, hs'],
        by simp [ht, ht'], fun frame hframe => ⟨hslot frame hframe, hslot' frame hframe⟩⟩

namespace SameInputs

variable {fallback : GeoFallback} {tracks : List Row} (h : SameInputs fallback tracks s t)
include h

section Track
variable {track frame : Row} (htrack : track ∈ tracks)
include htrack

theorem recordedFormat : s.recordedFormat track = t.recordedFormat track := by
  simp only [Store.recordedFormat]
  rcases h.formats.formatsField with ⟨hs, ht⟩ | ⟨field, field', hs, ht, hslot⟩
  · rw [hs, ht]
  · simp only [hs, ht, valueAt_congr (hslot track htrack)]

theorem recordedSource : s.recordedSource fallback track = t.recordedSource fallback track := by
  rw [Store.recordedSource, Store.recordedSource, h.recordedFormat htrack]

theorem legibleFormat (hformat : s.LegibleFormat track) : t.LegibleFormat track := by
  intro field' ht
  rcases h.formats.formatsField with ⟨-, hnone⟩ | ⟨field, found, hs, hsome, hslot⟩
  · cases hnone.symm.trans ht
  · cases hsome.symm.trans ht
    exact (hformat field hs).congr (hslot track htrack)

variable (hlive : s.isLive track = true) (hformat : s.LegibleFormat track)
include hlive hformat

variable (hframe : frame ∈ s.framesOf track)
include hframe

theorem legibleFrame (hread : s.LegibleFrame (s.recordedSource fallback track) frame) :
    t.LegibleFrame (s.recordedSource fallback track) frame := by
  intro longitude' latitude' ht
  rcases (h.numbers track htrack hlive hformat).numberFields with
    ⟨reason, -, hnone⟩ | ⟨longitude, latitude, lon, lat, hs, hsome, hslot⟩
  · cases hnone.symm.trans ht
  · cases hsome.symm.trans ht
    obtain ⟨hlon, hlat⟩ := hread longitude latitude hs
    exact ⟨hlon.congr (hslot frame hframe).1, hlat.congr (hslot frame hframe).2⟩

theorem frameOutcome : s.frameOutcome (s.recordedSource fallback track) frame =
    t.frameOutcome (s.recordedSource fallback track) frame := by
  simp only [Store.frameOutcome]
  rcases (h.numbers track htrack hlive hformat).numberFields with
    ⟨reason, hs, ht⟩ | ⟨longitude, latitude, longitude', latitude', hs, ht, hslot⟩
  · rw [hs, ht]
  · obtain ⟨hlon, hlat⟩ := hslot frame hframe
    simp only [hs, ht, coordinateAt, valueAt_congr hlon, valueAt_congr hlat, h.validates]

theorem frameStops {cause : DecodeError}
    (hstops : s.FrameStops (s.recordedSource fallback track) frame cause) :
    t.FrameStops (s.recordedSource fallback track) frame cause := by
  rcases (h.numbers track htrack hlive hformat).numberFields with
    ⟨reason, hnone, -⟩ | ⟨longitude, latitude, longitude', latitude', hsome, ht, hslot⟩
  · cases hstops with
    | longitude hs _ => cases hnone.symm.trans hs
    | latitude hs _ _ => cases hnone.symm.trans hs
  · obtain ⟨hlon, hlat⟩ := hslot frame hframe
    cases hstops with
    | longitude hs hcause =>
      cases hsome.symm.trans hs
      exact .longitude ht (hcause.congr hlon)
    | latitude hs hread hcause =>
      cases hsome.symm.trans hs
      exact .latitude ht (hread.congr hlon) (hcause.congr hlat)

end Track

theorem walkable {track : Row} (htrack : track ∈ tracks) (hw : s.Walkable fallback track) :
    t.Walkable fallback track := by
  obtain ⟨hlive, hformat, hframes⟩ := walkable_iff.mp hw
  refine walkable_iff.mpr ⟨h.live track htrack ▸ hlive, h.legibleFormat htrack hformat, ?_⟩
  rw [← h.frames track htrack, ← h.recordedSource htrack]
  exact fun frame hframe =>
    h.legibleFrame htrack hlive hformat hframe (hframes frame hframe)

theorem trackStops {track : Row} (htrack : track ∈ tracks) {e : Error} {passed : List Row}
    (hstops : s.TrackStops fallback track e passed) : t.TrackStops fallback track e passed := by
  have hlives := h.live track htrack
  cases hstops with
  | stale hlive => exact .stale (hlives ▸ hlive)
  | format hlive hf hcause =>
    rcases h.formats.formatsField with ⟨hnone, -⟩ | ⟨field, field', hsome, ht, hslot⟩
    · cases hnone.symm.trans hf
    · cases hsome.symm.trans hf
      exact .format (hlives ▸ hlive) ht (hcause.congr (hslot track htrack))
  | @frame passed frame rest cause hlive hformat hframes hpassed hframe =>
    have hmem {other : Row} (hother : other ∈ passed ++ frame :: rest) :
        other ∈ s.framesOf track := hframes ▸ hother
    refine .frame (hlives ▸ hlive) (h.legibleFormat htrack hformat)
      (h.frames track htrack ▸ hframes) ?_ ?_
    · rw [← h.recordedSource htrack]
      exact fun other hother => h.legibleFrame htrack hlive hformat
        (hmem (List.mem_append_left _ hother)) (hpassed other hother)
    · rw [← h.recordedSource htrack]
      exact h.frameStops htrack hlive hformat (hmem (by simp)) hframe

theorem visits {part : List Row} (hsub : ∀ track ∈ part, track ∈ tracks) :
    s.visits part = t.visits part :=
  List.flatMap_congr fun track htrack => by rw [h.frames track (hsub track htrack)]

theorem walkStops {e : Error} {vs : List Visit} (hstops : s.WalkStops fallback tracks e vs) :
    t.WalkStops fallback tracks e vs := by
  obtain ⟨before, track, after, passed, htracks, hbefore, htrack, hvs⟩ := hstops
  have hsub : ∀ other ∈ before, other ∈ tracks := fun other hother =>
    htracks ▸ List.mem_append_left _ hother
  have hmem : track ∈ tracks := htracks ▸ by simp
  refine ⟨before, track, after, passed, htracks,
    fun other hother => h.walkable (hsub other hother) (hbefore other hother),
    h.trackStops hmem htrack, ?_⟩
  rw [hvs, h.visits hsub]

theorem outcome {v : Visit} (hv : v ∈ s.visits tracks) (hw : s.Walkable fallback v.track) :
    v.outcome s fallback = v.outcome t fallback := by
  obtain ⟨htrack, hframe⟩ := mem_frames_of_visit hv
  obtain ⟨hlive, hformat, -⟩ := walkable_iff.mp hw
  simp only [Visit.outcome, Visit.source, ← h.recordedSource htrack]
  exact h.frameOutcome htrack hlive hformat hframe

variable (hw : ∀ track ∈ tracks, s.Walkable fallback track)
include hw

theorem expectedReport : s.expectedReport fallback tracks = t.expectedReport fallback tracks := by
  have hvisits := h.visits fun _ htrack => htrack
  have houtcome (v : Visit) (hv : v ∈ s.visits tracks) :
      v.outcome s fallback = v.outcome t fallback :=
    h.outcome hv (hw v.track (mem_frames_of_visit hv).1)
  have hformat (v : Visit) (hv : v ∈ s.visits tracks) :=
    h.recordedFormat (mem_frames_of_visit hv).1
  have hframes : tracks.map (fun track => (s.framesOf track).length) =
      tracks.map fun track => (t.framesOf track).length :=
    List.map_congr_left fun track htrack => by rw [h.frames track htrack]
  have hattached : (s.visits tracks).countP (·.attaches s fallback) =
      (s.visits tracks).countP (·.attaches t fallback) :=
    List.countP_congr fun v hv => by rw [Visit.attaches, Visit.attaches, houtcome v hv]
  have hfallback : ((s.visits tracks).any fun v =>
      v.attaches s fallback && v.source s fallback = .generic fallback) =
      (s.visits tracks).any fun v =>
        v.attaches t fallback && v.source t fallback = .generic fallback := by
    rw [Bool.eq_iff_iff, List.any_eq_true, List.any_eq_true]
    refine exists_congr fun v => and_congr_right fun hv => ?_
    have hsource : v.source s fallback = v.source t fallback :=
      h.recordedSource (mem_frames_of_visit hv).1
    rw [Visit.attaches, Visit.attaches, houtcome v hv, hsource]
  have hfailures : (s.visits tracks).filterMap (·.failure? s fallback) =
      (s.visits tracks).filterMap (·.failure? t fallback) :=
    List.filterMap_congr fun v hv => by
      simp only [Visit.failure?, houtcome v hv, hformat v hv]
  simp only [Store.expectedReport, ← hvisits, hframes, hattached, hfallback, hfailures]

end SameInputs
end TrackStore.Store
