import TrackStore.Proofs.Attach.Obstacle

/-! # Walks that come to their end

A walk that answers a report has met no obstacle, and if it has written a coordinate then into a
field of coordinates. So its report and the store at its end are those that are counted and written
visit by visit.
-/
namespace TrackStore.ScorableGeoSchema
open Store

variable {s t u : Store} {fallback : GeoFallback} {g : ScorableGeoSchema} {tracks : List Row}
variable {ws : List (Row × Coordinate)} {cache : SourceCache} {track : Row} {r r' : AttachReport}

section Steps
variable (hs : s.WellFormed)
include hs

theorem attachFrame_ok {v : Visit} (hlive : s.isLive v.frame = true)
    (hw : s.Admits g.geoCoord.field ws)
    (h : g.attachFrame (s.trackSource fallback v.track) v.index v.frame r
      (s.writeAll g.geoCoord.field ws) = .ok r' u) :
    s.LegibleFrame (v.source s fallback) v.frame ∧
      s.Admits g.geoCoord.field (ws ++ s.writes fallback [v]) := by
  have hlegible : s.LegibleFrame (v.source s fallback) v.frame := by
    refine (s.legibleFrame_or_stops ..).resolve_right ?_
    rintro ⟨cause, hstops⟩
    rw [attachFrame_stops hs hlive hstops hw] at h
    cases h
  refine ⟨hlegible, ?_⟩
  cases hv : v.outcome s fallback with
  | error reason => rwa [writes_of_error hv, List.append_nil]
  | ok c =>
    -- The frame has a coordinate, so the walk has written it, and that asks for the type.
    have hread : (s.trackSource fallback v.track).coordinate (s.writeAll g.geoCoord.field ws)
        v.frame = .ok (.ok c) :=
      (coordinate_writeAll hw v.track v.frame).trans
        ((coordinate_eq hs hlive hlegible).trans (congrArg Except.ok hv))
    simp only [attachFrame, bind, EStateM.bind, query_apply, hread, Accessor.setAt,
      setValue_apply, checkType_writeAll] at h
    refine fun _ => ?_
    cases htype : s.checkType .coordinate g.geoCoord.field with
    | ok _ => rfl
    | error e => simp [htype] at h

theorem attachFrames_ok {frames : List Row} (hlive : ∀ frame ∈ frames, s.isLive frame = true)
    (index : Nat) (hw : s.Admits g.geoCoord.field ws)
    (h : g.attachFrames (s.trackSource fallback track) index frames r
      (s.writeAll g.geoCoord.field ws) = .ok r' u) :
    (∀ frame ∈ frames, s.LegibleFrame (s.recordedSource fallback track) frame) ∧
      s.Admits g.geoCoord.field (ws ++ s.writes fallback (Visit.along track index frames)) ∧
      u = s.writeAll g.geoCoord.field
        (ws ++ s.writes fallback (Visit.along track index frames)) := by
  induction frames generalizing index ws r with
  | nil =>
    cases h
    rw [Visit.along_nil, writes_nil, List.append_nil]
    exact ⟨nofun, hw, rfl⟩
  | cons frame frames ih =>
    rw [List.forall_mem_cons] at hlive
    rw [attachFrames, bind_eq_ok] at h
    obtain ⟨mid, v, hfirst, hrest⟩ := h
    obtain ⟨hlegible, hadmits⟩ :=
      attachFrame_ok hs (v := ⟨track, index, frame⟩) hlive.1 hw hfirst
    rw [attachFrame_eq hs (v := ⟨track, index, frame⟩) hlive.1 hlegible hadmits] at hfirst
    cases hfirst
    obtain ⟨hall, hadmits', rfl⟩ := ih hlive.2 (index + 1) hadmits hrest
    rw [Visit.along_cons, writes_append, ← List.append_assoc, List.forall_mem_cons]
    exact ⟨⟨hlegible, hall⟩, hadmits', rfl⟩

theorem trackSource_ok (hw : s.Admits g.geoCoord.field ws) {x : TrackSource × SourceCache}
    (h : trackSource (s.writeAll g.geoCoord.field ws) s.formatsAccessor fallback cache track =
      .ok x) : s.isLive track = true ∧ s.LegibleFormat track := by
  have hlive : s.isLive track = true := by
    by_contra hdead
    rw [trackSource_stale (Bool.eq_false_iff.mpr hdead)] at h
    cases h
  refine ⟨hlive, fun field hf => ?_⟩
  refine (s.readable_or_unreadable ..).resolve_right ?_
  rintro ⟨cause, hcause⟩
  rw [trackSource_unreadable hs hlive hf hcause hw] at h
  cases h

theorem attachTracks_ok (hc : cache.Valid s fallback) (hw : s.Admits g.geoCoord.field ws)
    (h : g.attachTracks s.formatsAccessor fallback cache tracks r
      (s.writeAll g.geoCoord.field ws) = .ok r' u) :
    (∀ track ∈ tracks, s.Walkable fallback track) ∧
      s.Admits g.geoCoord.field (ws ++ s.writes fallback (s.visits tracks)) := by
  induction tracks generalizing cache ws r with
  | nil =>
    rw [visits_nil, writes_nil, List.append_nil]
    exact ⟨nofun, hw⟩
  | cons track tracks ih =>
    rw [attachTracks, bind_eq_ok] at h
    obtain ⟨⟨found, cache'⟩, v, hquery, h⟩ := h
    obtain ⟨hsource, rfl⟩ := query_eq_ok.mp hquery
    obtain ⟨hlive, hformat⟩ := trackSource_ok hs hw hsource
    obtain ⟨valid, hvalid, hsource'⟩ := trackSource_eq hs hlive hformat hc hw
    cases hsource'.symm.trans hsource
    rw [bind_eq_ok] at h
    obtain ⟨frames, v, hquery, h⟩ := h
    obtain ⟨hframes, rfl⟩ := query_eq_ok.mp hquery
    cases (framesAt_writeAll hlive _ _).symm.trans hframes
    rw [bind_eq_ok] at h
    obtain ⟨mid, v, hwalk, h⟩ := h
    have hlives : ∀ frame ∈ s.framesOf track, s.isLive frame = true :=
      fun _ hframe => hs.membership.frame_live hframe
    obtain ⟨hlegible, hadmits, rfl⟩ := attachFrames_ok hs hlives 0 hw hwalk
    obtain ⟨hall, hadmits'⟩ := ih hvalid hadmits h
    rw [visits_cons, writes_append, ← List.append_assoc, List.forall_mem_cons]
    exact ⟨⟨walkable_iff.mpr ⟨hlive, hformat, hlegible⟩, hall⟩, hadmits'⟩

end Steps

/-- A walk that comes to its end could read all that it read and write all that it wrote. -/
theorem attach_ok (hs : s.WellFormed) (h : g.attach tracks fallback s = .ok r t) :
    (∀ track ∈ tracks, s.Walkable fallback track) ∧
      s.Admits g.geoCoord.field (s.writes fallback (s.visits tracks)) ∧
      r = s.expectedReport fallback tracks ∧
      t = s.writeAll g.geoCoord.field (s.writes fallback (s.visits tracks)) := by
  have hwalk := h
  rw [attach, bind_eq_ok] at hwalk
  obtain ⟨formats, v, hquery, hwalk⟩ := hwalk
  obtain ⟨hformats, rfl⟩ := query_eq_ok.mp hquery
  cases (formatField_eq hs.registry).symm.trans hformats
  obtain ⟨hall, hadmits⟩ :=
    attachTracks_ok hs SourceCache.valid_empty (admits_nil _ g.geoCoord.field) hwalk
  rw [attach_of_admits hs hall hadmits] at h
  cases h
  exact ⟨hall, hadmits, rfl, rfl⟩

end TrackStore.ScorableGeoSchema
