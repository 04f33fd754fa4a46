import TrackStore.Proofs.Attach.Outcome

/-! # Where attaching coordinates stops

A walk stops at the first track that is not live or whose format cannot be read, or at the first
frame with a longitude or a latitude that cannot be read. Nothing else stops it. The frames before
that point keep the coordinates that they got, and nothing else in the store is touched, whether or
not the walk stops.
-/
namespace TrackStore

namespace Store

/-- The slot holds bytes that do not begin with a value of the type, for that cause. -/
def Unreadable (s : Store) (t : FieldType) (field : FieldId) (row : Row) (cause : DecodeError) :
    Prop :=
  ∃ bytes, s.slot field row = some bytes ∧ t.decode bytes = .error cause

/-- A number of the frame cannot be read; the longitude is read before the latitude. -/
inductive FrameStops (s : Store) (source : GeoSource) (frame : Row) : DecodeError → Prop
  | longitude {longitude latitude cause} : s.numberFields source = .ok (longitude, latitude) →
    s.Unreadable .binary64 longitude frame cause → FrameStops s source frame cause
  | latitude {longitude latitude cause} : s.numberFields source = .ok (longitude, latitude) →
    s.Readable .binary64 longitude frame → s.Unreadable .binary64 latitude frame cause →
    FrameStops s source frame cause

/-- Why the walk does not come past a track, and the frames of the track that it comes past. -/
inductive TrackStops (s : Store) (fallback : GeoFallback) (track : Row) :
    Error → List Row → Prop
  | stale : s.isLive track = false → TrackStops s fallback track (.staleRow track) []
  | format {field cause} : s.isLive track = true → s.formatsField = some field →
    s.Unreadable .fileFormat field track cause → TrackStops s fallback track (.codec cause) []
  | frame {passed frame rest cause} : s.isLive track = true → s.LegibleFormat track →
    s.framesOf track = passed ++ frame :: rest →
    (∀ other ∈ passed, s.LegibleFrame (s.recordedSource fallback track) other) →
    s.FrameStops (s.recordedSource fallback track) frame cause →
    TrackStops s fallback track (.codec cause) passed

/-- Why the walk does not come to its end, and the visits that it has made when it stops. -/
def WalkStops (s : Store) (fallback : GeoFallback) (tracks : List Row) (e : Error)
    (vs : List Visit) : Prop :=
  ∃ before track after passed, tracks = before ++ track :: after ∧
    (∀ other ∈ before, s.Walkable fallback other) ∧ s.TrackStops fallback track e passed ∧
    vs = s.visits before ++ Visit.along track 0 passed

/-- What visits leave behind: the coordinates of those frames among them that have one, and nothing
else. -/
structure Attached (s : Store) (fallback : GeoFallback) (field : FieldId) (vs : List Visit)
    (t : Store) : Prop where
  tables : SameTables s t
  written : ∀ v ∈ vs, ∀ c, v.outcome s fallback = .ok c →
    t.slot field v.frame = some (FieldType.encode .coordinate c)
  kept : ∀ other row, (other = field → ∀ v ∈ vs, v.frame = row → v.attaches s fallback = false) →
    t.slot other row = s.slot other row

variable {s : Store} {fallback : GeoFallback} {tracks : List Row}

section Obstacles
variable {t : FieldType} {field : FieldId} {row track frame : Row} {source : GeoSource}

theorem readable_or_unreadable (s : Store) (t : FieldType) (field : FieldId) (row : Row) :
    s.Readable t field row ∨ ∃ cause, s.Unreadable t field row cause := by
  cases hslot : s.slot field row with
  | none => exact .inl fun bytes hbytes => by simp [hslot] at hbytes
  | some bytes =>
    cases hdecode : t.decode bytes with
    | ok v => exact .inl (readable_of_slot hslot hdecode)
    | error cause => exact .inr ⟨cause, bytes, hslot, hdecode⟩

theorem legibleFormat_or_unreadable (s : Store) (track : Row) :
    s.LegibleFormat track ∨
      ∃ field cause, s.formatsField = some field ∧ s.Unreadable .fileFormat field track cause := by
  cases hf : s.formatsField with
  | none => exact .inl fun field h => by simp [hf] at h
  | some field =>
    refine (s.readable_or_unreadable .fileFormat field track).imp (fun hread found h => ?_)
      fun ⟨cause, hcause⟩ => ⟨field, cause, rfl, hcause⟩
    cases hf.symm.trans h
    exact hread

theorem legibleFrame_or_stops (s : Store) (source : GeoSource) (frame : Row) :
    s.LegibleFrame source frame ∨ ∃ cause, s.FrameStops source frame cause := by
  cases hpair : s.numberFields source with
  | error reason => exact .inl fun longitude latitude h => by simp [hpair] at h
  | ok pair =>
    obtain ⟨longitude, latitude⟩ := pair
    rcases s.readable_or_unreadable .binary64 longitude frame with hlon | ⟨cause, hlon⟩
    · rcases s.readable_or_unreadable .binary64 latitude frame with hlat | ⟨cause, hlat⟩
      · refine .inl fun lon lat h => ?_
        cases hpair.symm.trans h
        exact ⟨hlon, hlat⟩
      · exact .inr ⟨cause, .latitude hpair hlon hlat⟩
    · exact .inr ⟨cause, .longitude hpair hlon⟩

/-- The first member of a list that lacks a property, and those before it. -/
theorem forall_mem_or_first {α : Type} (P : α → Prop) (l : List α) :
    (∀ a ∈ l, P a) ∨ ∃ before a after, l = before ++ a :: after ∧ (∀ b ∈ before, P b) ∧ ¬ P a := by
  classical
  cases hfind : l.find? fun a => !decide (P a) with
  | none => exact .inl fun a ha => by simpa using List.find?_eq_none.mp hfind a ha
  | some a =>
    obtain ⟨ha, before, after, rfl, hbefore⟩ := List.find?_eq_some_iff_append.mp hfind
    exact .inr ⟨before, a, after, rfl, fun b hb => by simpa using hbefore b hb, by simpa using ha⟩

theorem walkable_or_stops (s : Store) (fallback : GeoFallback) (track : Row) :
    s.Walkable fallback track ∨ ∃ e passed, s.TrackStops fallback track e passed := by
  cases hlive : s.isLive track with
  | false => exact .inr ⟨_, _, .stale hlive⟩
  | true =>
    rcases s.legibleFormat_or_unreadable track with hformat | ⟨field, cause, hf, hcause⟩
    · rcases forall_mem_or_first (s.LegibleFrame (s.recordedSource fallback track))
        (s.framesOf track) with hall | ⟨passed, frame, rest, hframes, hpassed, hframe⟩
      · exact .inl (walkable_iff.mpr ⟨hlive, hformat, hall⟩)
      · obtain ⟨cause, hcause⟩ := (s.legibleFrame_or_stops _ frame).resolve_left hframe
        exact .inr ⟨_, passed, .frame hlive hformat hframes hpassed hcause⟩
    · exact .inr ⟨_, [], .format hlive hf hcause⟩

theorem forall_walkable_or_stops (s : Store) (fallback : GeoFallback) (tracks : List Row) :
    (∀ track ∈ tracks, s.Walkable fallback track) ∨ ∃ e vs, s.WalkStops fallback tracks e vs := by
  refine (forall_mem_or_first (s.Walkable fallback) tracks).imp_right ?_
  rintro ⟨before, track, after, htracks, hbefore, htrack⟩
  obtain ⟨e, passed, hstops⟩ := (s.walkable_or_stops fallback track).resolve_left htrack
  exact ⟨e, _, before, track, after, passed, htracks, hbefore, hstops, rfl⟩

theorem getValue_of_unreadable (hs : s.WellFormed) (hlive : s.isLive row = true)
    (htype : s.checkType t field = .ok ()) {cause : DecodeError}
    (h : s.Unreadable t field row cause) : s.getValue t field row = .error (.codec cause) := by
  obtain ⟨bytes, hslot, hdecode⟩ := h
  rw [getValue_of_live hs hlive htype, hslot]
  simp [FieldType.decodeSlot, hdecode, Except.mapError]

theorem FrameStops.coordinate_eq (hs : s.WellFormed) (hlive : s.isLive frame = true)
    {cause : DecodeError} (h : s.FrameStops (s.recordedSource fallback track) frame cause) :
    (s.trackSource fallback track).coordinate s frame = .error (.codec cause) := by
  cases h with
  | longitude hpair hlon =>
    have hread := getValue_of_unreadable hs hlive (checkType_of_numberFields hpair).1 hlon
    simp only [TrackSource.coordinate, trackSource, sourceFields, hpair, Except.map,
      Accessor.getAt, hread, bind, Except.bind]
  | latitude hpair hlon hlat =>
    obtain ⟨htlon, htlat⟩ := checkType_of_numberFields hpair
    have hread := getValue_of_readable hs hlive htlon hlon
    have hread' := getValue_of_unreadable hs hlive htlat hlat
    simp only [TrackSource.coordinate, trackSource, sourceFields, hpair, Except.map,
      Accessor.getAt, hread, hread', bind, Except.bind]

end Obstacles

theorem mem_visits_append {before after : List Row} {track : Row} {passed rest : List Row}
    (hframes : s.framesOf track = passed ++ rest) {v : Visit}
    (hv : v ∈ s.visits before ++ Visit.along track 0 passed) :
    v ∈ s.visits (before ++ track :: after) := by
  have happend : Visit.along track 0 (passed ++ rest) =
      Visit.along track 0 passed ++ Visit.along track passed.length rest := by
    simp [Visit.along, List.zipIdx_append]
  simp only [visits, List.flatMap_append, List.flatMap_cons, hframes, happend, List.mem_append]
    at hv ⊢
  tauto

theorem TrackStops.frames_eq {track : Row} {e : Error} {passed : List Row}
    (h : s.TrackStops fallback track e passed) : ∃ rest, s.framesOf track = passed ++ rest := by
  cases h with
  | stale _ => exact ⟨_, rfl⟩
  | format _ _ _ => exact ⟨_, rfl⟩
  | frame _ _ hframes _ _ => exact ⟨_, hframes⟩

theorem WalkStops.mem_visits {e : Error} {vs : List Visit} (h : s.WalkStops fallback tracks e vs)
    {v : Visit} (hv : v ∈ vs) : v ∈ s.visits tracks := by
  obtain ⟨before, track, after, passed, rfl, -, hstops, rfl⟩ := h
  obtain ⟨rest, hframes⟩ := hstops.frames_eq
  exact mem_visits_append hframes hv

theorem attached_writeAll (hs : s.WellFormed) {field : FieldId} {vs : List Visit}
    (hw : s.Admits field (s.writes fallback vs)) (hvs : ∀ v ∈ vs, v ∈ s.visits tracks) :
    s.Attached fallback field vs (s.writeAll field (s.writes fallback vs)) := by
  have hsize {w : Row × Coordinate} (hmem : w ∈ s.writes fallback vs) :
      field.index < s.columns.size :=
    hs.index_lt_of_checkType (hw (List.ne_nil_of_mem hmem))
  constructor
  case tables => exact sameTables_writeAll ..
  case written =>
    intro v hv c hc
    have hmem := mem_writes.mpr ⟨v, hv, rfl, hc⟩
    refine slot_writeAll_of_mem (hsize hmem) hmem ?_
    rintro ⟨row, c'⟩ hw' rfl
    obtain ⟨w, hwv, hframe, hc'⟩ := mem_writes.mp hw'
    have hsame := outcome_eq_of_frame_eq hs.membership fallback (hvs v hv) (hvs w hwv) hframe
    exact Except.ok.inj (hc'.symm.trans (hsame.trans hc))
  case kept =>
    intro other row hnone
    by_cases hne : s.writes fallback vs = []
    · rw [hne]
      rfl
    · refine slot_writeAll_of_not_mem (hs.index_lt_of_checkType (hw hne)) fun hfield => ?_
      rintro ⟨row', c⟩ hmem rfl
      obtain ⟨v, hv, hframe, hc⟩ := mem_writes.mp hmem
      have hattach := hnone hfield v hv hframe
      simp [Visit.attaches, hc, Except.isOk, Except.toBool] at hattach

/-- What is not the coordinate of a frame of the tracks stays. -/
theorem Attached.slot_of_not_frame {field : FieldId} {vs : List Visit} {t : Store}
    (h : s.Attached fallback field vs t) (hvs : ∀ v ∈ vs, v ∈ s.visits tracks) {other : FieldId}
    {row : Row} (hrow : other = field → ∀ track ∈ tracks, row ∉ s.framesOf track) :
    t.slot other row = s.slot other row := by
  refine h.kept other row fun hfield v hv hframe => ?_
  obtain ⟨htrack, hmem⟩ := mem_frames_of_visit (hvs v hv)
  exact absurd (hframe ▸ hmem) (hrow hfield v.track htrack)

end Store

namespace ScorableGeoSchema
open Store

variable {s : Store} {fallback : GeoFallback} {g : ScorableGeoSchema} {tracks : List Row}
variable {ws : List (Row × Coordinate)} {cache : SourceCache} {track : Row} {e : Error}

/-- Without a live track with a format that can be read, there is nothing to go by. -/
theorem trackSource_stale (hlive : s.isLive track = false)
    (formats : Option (Accessor .fileFormat)) :
    trackSource (s.writeAll g.geoCoord.field ws) formats fallback cache track =
      .error (.staleRow track) := by
  have hcheck : (s.writeAll g.geoCoord.field ws).checkRow track = .error (.staleRow track) :=
    checkRow_of_not_live (by rw [isLive_writeAll, hlive])
  simp only [ScorableGeoSchema.trackSource, hcheck, bind, Except.bind]

theorem trackSource_unreadable (hs : s.WellFormed) (hlive : s.isLive track = true)
    {field : FieldId} (hf : s.formatsField = some field) {cause : DecodeError}
    (hcause : s.Unreadable .fileFormat field track cause)
    (hw : s.Admits g.geoCoord.field ws) :
    trackSource (s.writeAll g.geoCoord.field ws) s.formatsAccessor fallback cache track =
      .error (.codec cause) := by
  have hcheck : (s.writeAll g.geoCoord.field ws).checkRow track = .ok () := by
    rw [checkRow_eq_ok, isLive_writeAll, hlive]
  have htype := checkType_of_formatsField hf
  have hread := (hw.getValue (by decide) htype track).trans
    (getValue_of_unreadable hs hlive htype hcause)
  simp only [ScorableGeoSchema.trackSource, hcheck, formatsAccessor, hf, Option.map_some,
    Accessor.getAt, hread, bind, Except.bind]

theorem attachFrame_stops (hs : s.WellFormed) {frame : Row} (hlive : s.isLive frame = true)
    {cause : DecodeError} (h : s.FrameStops (s.recordedSource fallback track) frame cause)
    (hw : s.Admits g.geoCoord.field ws) (index : Nat) (r : AttachReport) :
    g.attachFrame (s.trackSource fallback track) index frame r (s.writeAll g.geoCoord.field ws) =
      .error (.codec cause) (s.writeAll g.geoCoord.field ws) := by
  have hcoordinate := (coordinate_writeAll hw track frame).trans (h.coordinate_eq hs hlive)
  simp only [attachFrame, bind, EStateM.bind, query_apply, hcoordinate]

theorem attachTracks_stops (hs : s.WellFormed) {passed : List Row}
    (h : s.TrackStops fallback track e passed) (hc : cache.Valid s fallback)
    (hw : s.Admits g.geoCoord.field (ws ++ s.writes fallback (Visit.along track 0 passed)))
    (after : List Row) (r : AttachReport) :
    g.attachTracks s.formatsAccessor fallback cache (track :: after) r
        (s.writeAll g.geoCoord.field ws) =
      .error e (s.writeAll g.geoCoord.field
        (ws ++ s.writes fallback (Visit.along track 0 passed))) := by
  cases h with
  | stale hlive =>
    simp only [attachTracks, bind, EStateM.bind, query_apply, trackSource_stale hlive,
      Visit.along_nil, writes_nil, List.append_nil]
  | format hlive hf hcause =>
    simp only [attachTracks, bind, EStateM.bind, query_apply,
      trackSource_unreadable hs hlive hf hcause hw.left, Visit.along_nil, writes_nil,
      List.append_nil]
  | @frame passed frame rest cause hlive hformat hframes hpassed hframe =>
    obtain ⟨cache', -, hsource⟩ := trackSource_eq hs hlive hformat hc hw.left
    have hlives : ∀ other ∈ passed ++ frame :: rest, s.isLive other = true :=
      fun other hother => hs.membership.frame_live (hframes ▸ hother)
    have hwalk := attachFrames_append hs
      (fun other hother => ⟨hlives other (List.mem_append_left _ hother), hpassed other hother⟩)
      (frame :: rest) 0 hw r.countTrack
    have hstop := attachFrame_stops hs (hlives frame (by simp)) hframe hw (0 + passed.length)
      (r.countTrack.add s fallback 0 (Visit.along track 0 passed))
    simp only [attachTracks, bind, EStateM.bind, query_apply, hsource, framesAt_writeAll hlive,
      hframes, hwalk, attachFrames, hstop]

/-- A walk stops with the error of its first obstacle, and leaves behind what it wrote by then. -/
theorem attach_stops (hs : s.WellFormed) {vs : List Visit} (h : s.WalkStops fallback tracks e vs)
    (hw : s.Admits g.geoCoord.field (s.writes fallback vs)) :
    g.attach tracks fallback s =
      .error e (s.writeAll g.geoCoord.field (s.writes fallback vs)) := by
  obtain ⟨before, track, after, passed, rfl, hbefore, hstops, rfl⟩ := h
  rw [writes_append] at hw ⊢
  obtain ⟨cache, hc, hwalk⟩ := attach_append hs hbefore (track :: after) hw.left
  rw [hwalk]
  exact attachTracks_stops hs hstops hc hw after _

/-- However it ends, a walk leaves behind what it has come past. -/
theorem attach_leaves (hs : s.WellFormed)
    (hg : s.checkType .coordinate g.geoCoord.field = .ok ()) {t : Store}
    (h : (∃ r, g.attach tracks fallback s = .ok r t) ∨
      ∃ e, g.attach tracks fallback s = .error e t) :
    ∃ vs, (∀ v ∈ vs, v ∈ s.visits tracks) ∧ s.Attached fallback g.geoCoord.field vs t := by
  have hattached {vs : List Visit} (hvs : ∀ v ∈ vs, v ∈ s.visits tracks) :=
    attached_writeAll hs (admits_of_checkType (s.writes fallback vs) hg) hvs
  rcases s.forall_walkable_or_stops fallback tracks with hall | ⟨e, vs, hstops⟩
  · refine ⟨s.visits tracks, fun _ hv => hv, ?_⟩
    rw [attach_eq hs hg hall] at h
    rcases h with ⟨r, hr⟩ | ⟨e, he⟩
    · cases hr
      exact hattached fun _ hv => hv
    · cases he
  · refine ⟨vs, fun _ hv => hstops.mem_visits hv, ?_⟩
    rw [attach_stops hs hstops (admits_of_checkType _ hg)] at h
    rcases h with ⟨r, hr⟩ | ⟨e, he⟩
    · cases hr
    · cases he
      exact hattached fun _ hv => hstops.mem_visits hv

/-- Attaching coordinates touches the coordinates of the frames of the tracks and nothing else. It
fails at the first obstacle, if there is one, and the frames visited before it keep what they
got. -/
theorem attach_extent (hs : s.Reachable)
    (hg : ∃ d, s.describeField g.geoCoord.field = .ok d ∧ d.type = .coordinate) (tracks : List Row)
    (fallback : GeoFallback) :
    (∀ t, (∃ r, g.attach tracks fallback s = .ok r t) ∨
        (∃ e, g.attach tracks fallback s = .error e t) →
      SameTables s t ∧ ∀ field row,
        (field = g.geoCoord.field → ∀ track ∈ tracks, row ∉ s.framesOf track) →
          t.slot field row = s.slot field row) ∧
    ((∃ e t, g.attach tracks fallback s = .error e t) ↔ ∃ e vs, s.WalkStops fallback tracks e vs) ∧
    ∀ e vs, s.WalkStops fallback tracks e vs →
      ∃ t, g.attach tracks fallback s = .error e t ∧ s.Attached fallback g.geoCoord.field vs t := by
  have hw := hs.wellFormed
  have htype := (checkType_eq_ok ..).mpr hg
  have hstop {e : Error} {vs : List Visit} (h : s.WalkStops fallback tracks e vs) :=
    attach_stops (g := g) hw h (admits_of_checkType _ htype)
  refine ⟨?_, ?_, ?_⟩
  · intro t ht
    obtain ⟨vs, hvs, h⟩ := attach_leaves hw htype ht
    exact ⟨h.tables, fun field row hrow => h.slot_of_not_frame hvs hrow⟩
  · constructor
    · rintro ⟨e, t, he⟩
      refine (s.forall_walkable_or_stops fallback tracks).resolve_left fun hall => ?_
      rw [attach_eq hw htype hall] at he
      cases he
    · rintro ⟨e, vs, h⟩
      exact ⟨e, _, hstop h⟩
  · intro e vs h
    exact ⟨_, hstop h, attached_writeAll hw (admits_of_checkType _ htype) fun _ hv =>
      h.mem_visits hv⟩

theorem attach_extent_longitude :
    let s := (withConfig { initialRowCapacity := 0 }).run
      [.createRow, .createRow, .createRow, .createRow, .addFrame ⟨1⟩ ⟨2⟩, .addFrame ⟨3⟩ ⟨4⟩,
        .register { name := "geo_coord", type := .coordinate },
        .register { name := "source_format", type := .fileFormat },
        .register { name := "world_x", type := .binary64 },
        .register { name := "world_y", type := .binary64 },
        .setValue .fileFormat ⟨1⟩ ⟨1⟩ .kw18, .setValue .fileFormat ⟨1⟩ ⟨3⟩ .kw18,
        .setValue .binary64 ⟨2⟩ ⟨2⟩ ⟨0⟩, .setValue .binary64 ⟨3⟩ ⟨2⟩ ⟨0⟩,
        .setRaw ⟨2⟩ ⟨4⟩ [0], .setValue .binary64 ⟨3⟩ ⟨4⟩ ⟨0⟩]
    let g : ScorableGeoSchema :=
      ⟨⟨"scorable_geo", ⟨0⟩, [], []⟩, { field := ⟨0⟩, name := "geo_coord" }⟩
    ∃ t, g.attach [⟨1⟩, ⟨3⟩, ⟨1⟩] ⟨"lon", "lat"⟩ s = .error (.codec .endOfBytes) t ∧
      SameTables s t ∧ t.slot ⟨0⟩ ⟨2⟩ = some (FieldType.encode .coordinate ⟨⟨0⟩, ⟨0⟩⟩) ∧
      t.slot ⟨0⟩ ⟨4⟩ = none := by
  intro s g
  have hfields : s.numberFields (s.recordedSource ⟨"lon", "lat"⟩ ⟨3⟩) = .ok (⟨2⟩, ⟨3⟩) := by
    decide +kernel
  have hframes : s.framesOf ⟨3⟩ = [] ++ ⟨4⟩ :: [] := by decide +kernel
  have hslot : s.slot ⟨2⟩ ⟨4⟩ = some [0] := by decide +kernel
  have hstops : s.WalkStops ⟨"lon", "lat"⟩ [⟨1⟩, ⟨3⟩, ⟨1⟩] (.codec .endOfBytes)
      [⟨⟨1⟩, 0, ⟨2⟩⟩] := by
    refine ⟨[⟨1⟩], ⟨3⟩, [⟨1⟩], [], rfl, by decide +kernel, ?_, by decide +kernel⟩
    exact .frame (by decide +kernel) (by decide +kernel) hframes nofun
      (.longitude hfields ⟨_, hslot, rfl⟩)
  have hg : ∃ d, s.describeField g.geoCoord.field = .ok d ∧ d.type = .coordinate :=
    ⟨{ name := "geo_coord", type := .coordinate }, by decide +kernel, rfl⟩
  obtain ⟨-, -, hattach⟩ := attach_extent ⟨_, _, rfl⟩ hg [⟨1⟩, ⟨3⟩, ⟨1⟩] ⟨"lon", "lat"⟩
  obtain ⟨t, ht, hleft⟩ := hattach _ _ hstops
  refine ⟨t, ht, hleft.tables, hleft.written _ List.mem_cons_self _ (by decide +kernel), ?_⟩
  rw [hleft.kept ⟨0⟩ ⟨4⟩ fun _ => by decide]
  decide +kernel

end ScorableGeoSchema
end TrackStore
