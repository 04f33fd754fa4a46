import TrackStore.Proofs.Attach.Writes

/-! # The walk over tracks and frames

With its cache and with its writes in between, the walk comes to the outcomes of its frames, one
after the other.
-/
namespace TrackStore

namespace SourceCache

/-- A cache that holds nothing but what a look into the store gives. -/
structure Valid (s : Store) (fallback : GeoFallback) (c : SourceCache) : Prop where
  kw18 : ∀ fields, c.kw18 = some fields → GeoSource.kw18.resolve s = .ok fields
  apix : ∀ fields, c.apix = some fields → GeoSource.apix.resolve s = .ok fields
  generic : ∀ fields, c.generic = some fields → (GeoSource.generic fallback).resolve s = .ok fields

variable {s : Store} {fallback : GeoFallback}

theorem valid_empty : Valid s fallback {} := by
  constructor <;> simp

theorem Valid.find {c : SourceCache} (hc : c.Valid s fallback) (format : FileFormat)
    {fields : SourceFields} (h : c.find (.ofFormat format fallback) = some fields) :
    (GeoSource.ofFormat format fallback).resolve s = .ok fields := by
  cases format
  case kw18 => exact hc.kw18 fields h
  case apix => exact hc.apix fields h
  all_goals exact hc.generic fields h

theorem Valid.put {c : SourceCache} (hc : c.Valid s fallback) (format : FileFormat)
    {fields : SourceFields} (h : (GeoSource.ofFormat format fallback).resolve s = .ok fields) :
    (c.put fields (.ofFormat format fallback)).Valid s fallback := by
  cases format
  case kw18 => exact { hc with kw18 := fun f hf => Option.some.inj hf ▸ h }
  case apix => exact { hc with apix := fun f hf => Option.some.inj hf ▸ h }
  all_goals exact { hc with generic := fun f hf => Option.some.inj hf ▸ h }

/-- With a valid cache the fields are those of a fresh look, also while coordinates are written. -/
theorem Valid.fields {c : SourceCache} (hc : c.Valid s fallback) (hs : s.registry.WellFormed)
    (field : FieldId) (ws : List (Row × Coordinate)) (format : FileFormat) :
    ∃ c' : SourceCache, c'.Valid s fallback ∧
      c.fields (s.writeAll field ws) (.ofFormat format fallback) =
        .ok (s.sourceFields (.ofFormat format fallback), c') := by
  have hfresh := Store.resolve_eq hs (.ofFormat format fallback)
  unfold SourceCache.fields
  cases hf : c.find (.ofFormat format fallback) with
  | some known =>
    have hknown := hc.find format hf
    rw [hfresh] at hknown
    cases hknown
    exact ⟨c, hc, rfl⟩
  | none =>
    refine ⟨_, hc.put format hfresh, ?_⟩
    simp only [GeoSource.resolve_writeAll, hfresh]
    rfl

end SourceCache

namespace Store
variable {s : Store} {fallback : GeoFallback} {field : FieldId}

/-- What is known of a track by a fresh look. -/
def trackSource (s : Store) (fallback : GeoFallback) (track : Row) : TrackSource where
  track
  format := s.recordedFormat track
  source := s.recordedSource fallback track
  fields := s.sourceFields (s.recordedSource fallback track)

theorem coordinate_writeAll {ws : List (Row × Coordinate)} (hw : s.Admits field ws)
    (track frame : Row) :
    (s.trackSource fallback track).coordinate (s.writeAll field ws) frame =
      (s.trackSource fallback track).coordinate s frame := by
  simp only [TrackSource.coordinate, trackSource, sourceFields]
  cases hpair : s.numberFields (s.recordedSource fallback track) with
  | error reason => rfl
  | ok pair =>
    obtain ⟨longitude, latitude⟩ := pair
    obtain ⟨hlon, hlat⟩ := checkType_of_numberFields hpair
    simp only [Except.map, Accessor.getAt, hw.getValue (by decide) hlon,
      hw.getValue (by decide) hlat, (sameTables_writeAll ..).config]

theorem coordinate_eq (hs : s.WellFormed) {track frame : Row} (hlive : s.isLive frame = true)
    (hread : s.LegibleFrame (s.recordedSource fallback track) frame) :
    (s.trackSource fallback track).coordinate s frame =
      .ok (s.frameOutcome (s.recordedSource fallback track) frame) := by
  simp only [TrackSource.coordinate, trackSource, sourceFields, frameOutcome]
  cases hpair : s.numberFields (s.recordedSource fallback track) with
  | error reason => rfl
  | ok pair =>
    obtain ⟨longitude, latitude⟩ := pair
    obtain ⟨hlon, hlat⟩ := checkType_of_numberFields hpair
    obtain ⟨hrlon, hrlat⟩ := hread longitude latitude hpair
    simp only [Except.map, Accessor.getAt, getValue_of_readable hs hlive hlon hrlon,
      getValue_of_readable hs hlive hlat hrlat, bind, Except.bind, coordinateAt,
      GeoSource.fieldNames_eq]
    cases s.valueAt .binary64 longitude frame with
    | none => rfl
    | some lon =>
      cases s.valueAt .binary64 latitude frame with
      | none => rfl
      | some lat =>
        simp only [Bool.and_eq_true, Bool.not_eq_true', ← Coordinate.isValid_iff, Bool.not_eq_true]
        split <;> rfl

end Store

namespace AttachReport

/-- The report after so many more tracks and these visits. -/
def add (r : AttachReport) (s : Store) (fallback : GeoFallback) (tracks : Nat) (vs : List Visit) :
    AttachReport where
  tracks := r.tracks + tracks
  frames := r.frames + vs.length
  attached := r.attached + vs.countP (·.attaches s fallback)
  usedFallback := r.usedFallback ||
    vs.any fun v => v.attaches s fallback && v.source s fallback = .generic fallback
  failures := r.failures ++ vs.filterMap (·.failure? s fallback)

variable (r : AttachReport) (s : Store) (fallback : GeoFallback)

theorem add_nil : r.add s fallback 0 [] = r := by
  simp [add]

theorem add_add (m n : Nat) (vs us : List Visit) :
    (r.add s fallback m vs).add s fallback n us = r.add s fallback (m + n) (vs ++ us) := by
  simp [add, Nat.add_assoc, Bool.or_assoc]

theorem countTrack_eq : r.countTrack = r.add s fallback 1 [] := by
  simp [countTrack, add]

variable {s fallback} {v : Visit}

theorem countAttached_eq {c : Coordinate} (h : v.outcome s fallback = .ok c) :
    r.countAttached (v.source s fallback) = r.add s fallback 0 [v] := by
  have hgeneric :
      (v.source s fallback).isGeneric = decide (v.source s fallback = .generic fallback) :=
    GeoSource.isGeneric_coordinateSource (s.recordedFormat v.track) fallback
  simp [countAttached, add, Visit.attaches, Visit.failure?, h, Except.isOk, Except.toBool, hgeneric]

theorem countFailure_eq {reason : ResolutionReason} (h : v.outcome s fallback = .error reason) :
    r.countFailure ((s.trackSource fallback v.track).failure v.index v.frame reason) =
      r.add s fallback 0 [v] := by
  simp [countFailure, add, Visit.attaches, Visit.failure?, h, Except.isOk, Except.toBool,
    TrackSource.failure, Store.trackSource, FileFormat.label_eq]

end AttachReport

namespace ScorableGeoSchema
open Store

variable {s : Store} {fallback : GeoFallback} {g : ScorableGeoSchema}
variable {ws : List (Row × Coordinate)} (hs : s.WellFormed)
include hs

theorem attachFrame_eq {v : Visit} (hlive : s.isLive v.frame = true)
    (hread : s.LegibleFrame (v.source s fallback) v.frame)
    (hw : s.Admits g.geoCoord.field (ws ++ s.writes fallback [v])) (r : AttachReport) :
    g.attachFrame (s.trackSource fallback v.track) v.index v.frame r
        (s.writeAll g.geoCoord.field ws) =
      .ok (r.add s fallback 0 [v])
        (s.writeAll g.geoCoord.field (ws ++ s.writes fallback [v])) := by
  have houtcome : (s.trackSource fallback v.track).coordinate (s.writeAll g.geoCoord.field ws)
      v.frame = .ok (v.outcome s fallback) :=
    (coordinate_writeAll hw.left v.track v.frame).trans (coordinate_eq hs hlive hread)
  simp only [attachFrame, bind, EStateM.bind, query_apply, houtcome]
  cases hv : v.outcome s fallback with
  | error reason =>
    rw [writes_of_error hv, List.append_nil, ← r.countFailure_eq hv]
    rfl
  | ok c =>
    rw [writes_of_ok hv] at hw ⊢
    have hg := hw (by simp)
    have hlive' : (s.writeAll g.geoCoord.field ws).isLive v.frame = true := by
      rw [isLive_writeAll, hlive]
    have hsize : g.geoCoord.field.index < (s.writeAll g.geoCoord.field ws).columns.size := by
      rw [(sameTables_writeAll ..).columns]
      exact hs.index_lt_of_checkType hg
    have htype :
        (s.writeAll g.geoCoord.field ws).checkType .coordinate g.geoCoord.field = .ok () := by
      rw [checkType_writeAll, hg]
    have hset := setValue_of_live hlive' hsize htype c
    rw [← r.countAttached_eq hv, writeAll_concat]
    simp only [Accessor.setAt, EStateM.bind, hset]
    rfl

theorem attachFrames_append {track : Row} {frames : List Row}
    (hframes : ∀ frame ∈ frames, s.isLive frame = true ∧
      s.LegibleFrame (s.recordedSource fallback track) frame)
    (rest : List Row) (index : Nat)
    (hw : s.Admits g.geoCoord.field (ws ++ s.writes fallback (Visit.along track index frames)))
    (r : AttachReport) :
    g.attachFrames (s.trackSource fallback track) index (frames ++ rest) r
        (s.writeAll g.geoCoord.field ws) =
      g.attachFrames (s.trackSource fallback track) (index + frames.length) rest
        (r.add s fallback 0 (Visit.along track index frames))
        (s.writeAll g.geoCoord.field
          (ws ++ s.writes fallback (Visit.along track index frames))) := by
  -- Earlier frames only add to the writes, which later reads do not see, and to the report.
  induction frames generalizing index ws r with
  | nil =>
    rw [Visit.along_nil, writes_nil, AttachReport.add_nil, List.append_nil]
    rfl
  | cons frame frames ih =>
    rw [List.forall_mem_cons] at hframes
    rw [Visit.along_cons, writes_append, ← List.append_assoc] at hw ⊢
    have hfirst := attachFrame_eq hs (v := ⟨track, index, frame⟩) hframes.1.1 hframes.1.2 hw.left r
    have hrest := ih hframes.2 (index + 1) hw (r.add s fallback 0 [⟨track, index, frame⟩])
    simp only [List.cons_append, attachFrames, bind, EStateM.bind, hfirst, hrest]
    rw [AttachReport.add_add, List.length_cons, Nat.add_assoc, Nat.add_comm 1]
    rfl

theorem trackSource_eq {track : Row} (hlive : s.isLive track = true)
    (hformat : s.LegibleFormat track) {cache : SourceCache} (hc : cache.Valid s fallback)
    (hw : s.Admits g.geoCoord.field ws) :
    ∃ cache' : SourceCache, cache'.Valid s fallback ∧
      trackSource (s.writeAll g.geoCoord.field ws) s.formatsAccessor fallback cache track =
        .ok (s.trackSource fallback track, cache') := by
  obtain ⟨cache', hc', hfields⟩ :=
    hc.fields hs.registry g.geoCoord.field ws (s.recordedFormat track)
  refine ⟨cache', hc', ?_⟩
  have hcheck : (s.writeAll g.geoCoord.field ws).checkRow track = .ok () := by
    rw [checkRow_eq_ok, isLive_writeAll, hlive]
  simp only [ScorableGeoSchema.trackSource, hcheck, formatsAccessor]
  cases hf : s.formatsField with
  | none =>
    have hnone : s.recordedFormat track = .unknown := by simp [recordedFormat, hf]
    rw [hnone] at hfields
    simp only [Store.trackSource, recordedSource, FileFormat.coordinateSource_eq, hnone,
      Option.map_none, bind, Except.bind, pure, Except.pure, hfields]
  | some field =>
    have htype := checkType_of_formatsField hf
    have hvalue : s.recordedFormat track = (s.valueAt .fileFormat field track).getD .unknown := by
      simp [recordedFormat, hf]
    have hread : (s.writeAll g.geoCoord.field ws).getValue .fileFormat field track =
        .ok (s.valueAt .fileFormat field track) :=
      (hw.getValue (by decide) htype track).trans
        (getValue_of_readable hs hlive htype (hformat field hf))
    rw [hvalue] at hfields
    simp only [Store.trackSource, recordedSource, FileFormat.coordinateSource_eq, hvalue,
      Option.map_some, Accessor.getAt, hread, bind, Except.bind, pure, Except.pure, hfields]

theorem attachTracks_append {tracks : List Row}
    (ht : ∀ track ∈ tracks, s.Walkable fallback track) (rest : List Row) {cache : SourceCache}
    (hc : cache.Valid s fallback)
    (hw : s.Admits g.geoCoord.field (ws ++ s.writes fallback (s.visits tracks)))
    (r : AttachReport) :
    ∃ cache' : SourceCache, cache'.Valid s fallback ∧
      g.attachTracks s.formatsAccessor fallback cache (tracks ++ rest) r
          (s.writeAll g.geoCoord.field ws) =
        g.attachTracks s.formatsAccessor fallback cache' rest
          (r.add s fallback tracks.length (s.visits tracks))
          (s.writeAll g.geoCoord.field (ws ++ s.writes fallback (s.visits tracks))) := by
  -- The cache changes from track to track, so all that is kept of it is that it is valid.
  induction tracks generalizing cache ws r with
  | nil =>
    refine ⟨cache, hc, ?_⟩
    rw [visits_nil, writes_nil, List.length_nil, AttachReport.add_nil, List.append_nil]
    rfl
  | cons track tracks ih =>
    rw [List.forall_mem_cons] at ht
    rw [visits_cons, writes_append, ← List.append_assoc] at hw ⊢
    obtain ⟨hlive, hformat, hframes⟩ := walkable_iff.mp ht.1
    obtain ⟨cache', hc', hsource⟩ := trackSource_eq hs hlive hformat hc hw.left.left
    have hwalk := attachFrames_append hs
      (fun frame hframe => ⟨hs.membership.frame_live hframe, hframes frame hframe⟩) [] 0 hw.left
      r.countTrack
    rw [List.append_nil] at hwalk
    obtain ⟨last, hlast, hrest⟩ := ih ht.2 hc' hw
      (r.countTrack.add s fallback 0 (Visit.along track 0 (s.framesOf track)))
    refine ⟨last, hlast, ?_⟩
    have hcount : 1 + (0 + tracks.length) = (track :: tracks).length := by
      rw [Nat.zero_add, Nat.add_comm, List.length_cons]
    simp only [List.cons_append, attachTracks, bind, EStateM.bind, query_apply, hsource,
      framesAt_writeAll hlive, hwalk, attachFrames, pure, EStateM.pure, hrest]
    rw [AttachReport.countTrack_eq r s fallback, AttachReport.add_add, AttachReport.add_add, hcount,
      List.nil_append]

/-- The walk past tracks that it can read, with the report that is counted visit by visit and with
what the visits write. -/
theorem attach_append {tracks : List Row} (ht : ∀ track ∈ tracks, s.Walkable fallback track)
    (rest : List Row) (hw : s.Admits g.geoCoord.field (s.writes fallback (s.visits tracks))) :
    ∃ cache : SourceCache, cache.Valid s fallback ∧
      g.attach (tracks ++ rest) fallback s =
        g.attachTracks s.formatsAccessor fallback cache rest (s.expectedReport fallback tracks)
          (s.writeAll g.geoCoord.field (s.writes fallback (s.visits tracks))) := by
  have hw' : s.Admits g.geoCoord.field ([] ++ s.writes fallback (s.visits tracks)) := hw
  obtain ⟨cache, hc, hwalk⟩ := attachTracks_append hs ht rest SourceCache.valid_empty hw' {}
  have hreport : ({} : AttachReport).add s fallback tracks.length (s.visits tracks) =
      s.expectedReport fallback tracks := by
    simp [AttachReport.add, expectedReport, visits, Visit.along, List.length_flatMap]
  rw [hreport] at hwalk
  refine ⟨cache, hc, ?_⟩
  simp only [attach, bind, EStateM.bind, query_apply, formatField_eq hs.registry]
  exact hwalk

theorem attach_of_admits {tracks : List Row} (ht : ∀ track ∈ tracks, s.Walkable fallback track)
    (hw : s.Admits g.geoCoord.field (s.writes fallback (s.visits tracks))) :
    g.attach tracks fallback s = .ok (s.expectedReport fallback tracks)
      (s.writeAll g.geoCoord.field (s.writes fallback (s.visits tracks))) := by
  obtain ⟨cache, -, hwalk⟩ := attach_append hs ht [] hw
  rwa [List.append_nil] at hwalk

theorem attach_eq (hg : s.checkType .coordinate g.geoCoord.field = .ok ()) {tracks : List Row}
    (ht : ∀ track ∈ tracks, s.Walkable fallback track) :
    g.attach tracks fallback s = .ok (s.expectedReport fallback tracks)
      (s.writeAll g.geoCoord.field (s.writes fallback (s.visits tracks))) :=
  attach_of_admits hs ht (admits_of_checkType _ hg)

end ScorableGeoSchema
end TrackStore
