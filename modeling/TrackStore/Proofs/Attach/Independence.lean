import TrackStore.Proofs.Attach.Repetition
import TrackStore.Proofs.Settings.Blind

/-! # What attaching coordinates depends on

The names of the caller count for tracks whose format has no fields of its own, and for no others.
Of the stores, nothing counts but the tracks and what is in the fields that are meant to be read,
whatever their handles and whatever else the stores hold.
-/
namespace TrackStore

/-- Tracks of this format have their coordinates in fields of the format. -/
def FileFormat.OwnsFields (format : FileFormat) : Prop := format = .kw18 ∨ format = .apix

instance (format : FileFormat) : Decidable format.OwnsFields :=
  inferInstanceAs (Decidable (format = .kw18 ∨ format = .apix))

theorem FileFormat.OwnsFields.coordinateSource {format : FileFormat} (h : format.OwnsFields)
    (fallback fallback' : GeoFallback) :
    format.coordinateSource fallback = format.coordinateSource fallback' := by
  rcases h with rfl | rfl <;> rfl

namespace Store

variable {s : Store} {track : Row}

section Owned
variable (h : (s.recordedFormat track).OwnsFields)
include h

theorem recordedSource_of_ownsFields (fallback fallback' : GeoFallback) :
    s.recordedSource fallback track = s.recordedSource fallback' track :=
  h.coordinateSource fallback fallback'

theorem trackSource_of_ownsFields (fallback fallback' : GeoFallback) :
    s.trackSource fallback track = s.trackSource fallback' track := by
  rw [trackSource, trackSource, recordedSource_of_ownsFields h fallback fallback']

theorem outcome_of_ownsFields {v : Visit} (hv : v.track = track)
    (fallback fallback' : GeoFallback) : v.outcome s fallback = v.outcome s fallback' := by
  subst hv
  rw [Visit.outcome, Visit.outcome, Visit.source, Visit.source,
    recordedSource_of_ownsFields h fallback fallback']

theorem failuresOf_of_ownsFields (fallback fallback' : GeoFallback) :
    s.failuresOf fallback track = s.failuresOf fallback' track :=
  List.filterMap_congr fun v hv => by
    rw [Visit.failure?, Visit.failure?,
      outcome_of_ownsFields h (Visit.track_of_mem_along hv) fallback fallback']

end Owned

end Store

namespace ScorableGeoSchema
open Store

variable {s t u : Store} {fallback fallback' : GeoFallback} {g g' : ScorableGeoSchema}
variable {tracks : List Row} {ws : List (Row × Coordinate)} {r r' : AttachReport}

/-- The two walks go side by side: up to a track they have written the same, each has a cache that
is valid for its own names, and the track is the same to both. -/
theorem attachTracks_of_ownsFields (hs : s.WellFormed)
    (howns : ∀ track ∈ tracks, s.isLive track = true → s.LegibleFormat track →
      (s.recordedFormat track).OwnsFields)
    {cache cache' : SourceCache} (hc : cache.Valid s fallback) (hc' : cache'.Valid s fallback')
    (hw : s.Admits g.geoCoord.field ws) (r : AttachReport) :
    g.attachTracks s.formatsAccessor fallback cache tracks r (s.writeAll g.geoCoord.field ws) =
      g.attachTracks s.formatsAccessor fallback' cache' tracks r
        (s.writeAll g.geoCoord.field ws) := by
  induction tracks generalizing cache cache' ws r with
  | nil => rfl
  | cons track tracks ih =>
    rw [List.forall_mem_cons] at howns
    cases hlive : s.isLive track with
    | false => simp only [attachTracks, bind, EStateM.bind, query_apply, trackSource_stale hlive]
    | true =>
      rcases s.legibleFormat_or_unreadable track with hformat | ⟨field, cause, hf, hcause⟩
      · have hsame := trackSource_of_ownsFields (howns.1 hlive hformat) fallback fallback'
        obtain ⟨next, hnext, hsource⟩ := trackSource_eq hs hlive hformat hc hw
        obtain ⟨next', hnext', hsource'⟩ := trackSource_eq hs hlive hformat hc' hw
        simp only [attachTracks, bind, EStateM.bind, query_apply, hsource, hsource', hsame,
          framesAt_writeAll hlive]
        cases hwalk : g.attachFrames (s.trackSource fallback' track) 0 (s.framesOf track)
            r.countTrack (s.writeAll g.geoCoord.field ws) with
        | error e v => rfl
        | ok mid v =>
          have hlives : ∀ frame ∈ s.framesOf track, s.isLive frame = true :=
            fun _ hframe => hs.membership.frame_live hframe
          obtain ⟨-, hadmits, rfl⟩ := attachFrames_ok hs hlives 0 hw hwalk
          exact ih howns.2 hnext hnext' hadmits _
      · simp only [attachTracks, bind, EStateM.bind, query_apply,
          trackSource_unreadable hs hlive hf hcause hw]

theorem attach_of_ownsFields (hs : s.WellFormed)
    (howns : ∀ track ∈ tracks, s.isLive track = true → s.LegibleFormat track →
      (s.recordedFormat track).OwnsFields) (fallback fallback' : GeoFallback) :
    g.attach tracks fallback s = g.attach tracks fallback' s := by
  simp only [attach, bind, EStateM.bind, query_apply, formatField_eq hs.registry]
  exact attachTracks_of_ownsFields hs howns SourceCache.valid_empty SourceCache.valid_empty
    (admits_nil s g.geoCoord.field) {}

/-- Where two pairs of names both let the walk come to its end, a track whose format has fields of
its own fares the same under both, whatever the names do for other tracks. -/
theorem attach_frames_of_ownsFields (hs : s.WellFormed)
    (h : g.attach tracks fallback s = .ok r t) (h' : g.attach tracks fallback' s = .ok r' u)
    {track : Row} (howns : (s.recordedFormat track).OwnsFields) :
    r.failuresFor track = r'.failuresFor track ∧
      ∀ frame ∈ s.framesOf track, ∀ field, t.slot field frame = u.slot field frame := by
  obtain ⟨-, hadmits, rfl, rfl⟩ := attach_ok hs h
  obtain ⟨-, hadmits', rfl, rfl⟩ := attach_ok hs h'
  constructor
  · rw [failuresFor_expectedReport, failuresFor_expectedReport,
      failuresOf_of_ownsFields howns fallback fallback']
  · intro frame hframe field
    have hleft := attached_writeAll hs hadmits fun _ hv => hv
    have hleft' := attached_writeAll hs hadmits' fun _ hv => hv
    refine hleft.slot_eq hleft' (fun _ => Iff.rfl) (fun v hv hrow => ?_) field
    refine outcome_of_ownsFields howns ?_ fallback fallback'
    exact hs.membership.track_unique (mem_frames_of_visit hv).2 (hrow ▸ hframe)

theorem attach_of_sameInputs (hs : s.WellFormed) (ht : t.WellFormed)
    (hg : s.checkType .coordinate g.geoCoord.field = .ok ())
    (hg' : t.checkType .coordinate g'.geoCoord.field = .ok ())
    (h : SameInputs fallback tracks s t) :
    SameResult (fun _ _ => True) (g.attach tracks fallback s) (g'.attach tracks fallback t) := by
  rcases s.forall_walkable_or_stops fallback tracks with hall | ⟨e, vs, hstops⟩
  · rw [attach_eq hs hg hall, attach_eq ht hg' fun track htrack =>
      h.walkable htrack (hall track htrack), h.expectedReport hall]
    exact .ok _ trivial
  · rw [attach_stops hs hstops (admits_of_checkType _ hg),
      attach_stops ht (h.walkStops hstops) (admits_of_checkType _ hg')]
    exact .error e trivial

/-- Attaching coordinates depends on nothing but what it is meant to read. If no track makes use of
the names of the caller, they do not matter at all; in any list, they do not matter to the tracks
that make no use of them. And stores that agree on what is read, under whatever handles, give the
same report or the same error. -/
theorem attach_agrees (hs : s.Reachable) (g : ScorableGeoSchema) (tracks : List Row) :
    ((∀ track ∈ tracks, s.isLive track = true → s.LegibleFormat track →
        (s.recordedFormat track).OwnsFields) →
      ∀ fallback fallback', g.attach tracks fallback s = g.attach tracks fallback' s) ∧
    (∀ fallback fallback' r r' t u, g.attach tracks fallback s = .ok r t →
      g.attach tracks fallback' s = .ok r' u →
      ∀ track ∈ tracks, (s.recordedFormat track).OwnsFields →
        r.failuresFor track = r'.failuresFor track ∧
          ∀ frame ∈ s.framesOf track, ∀ field, t.slot field frame = u.slot field frame) ∧
    ∀ t (g' : ScorableGeoSchema) fallback, t.Reachable →
      (∃ d, s.describeField g.geoCoord.field = .ok d ∧ d.type = .coordinate) →
      (∃ d, t.describeField g'.geoCoord.field = .ok d ∧ d.type = .coordinate) →
      SameInputs fallback tracks s t →
      SameResult (fun _ _ => True) (g.attach tracks fallback s) (g'.attach tracks fallback t) := by
  have hw := hs.wellFormed
  refine ⟨fun howns => attach_of_ownsFields hw howns, ?_, ?_⟩
  · intro fallback fallback' r r' t u h h' track _ howns
    exact attach_frames_of_ownsFields hw h h' howns
  · intro t g' fallback ht hg hg' h
    exact attach_of_sameInputs hw ht.wellFormed ((checkType_eq_ok ..).mpr hg)
      ((checkType_eq_ok ..).mpr hg') h

theorem attach_agrees_reordered :
    let s := (withConfig { initialRowCapacity := 0 }).run
      [.createRow, .createRow, .createRow, .createRow, .addFrame ⟨1⟩ ⟨2⟩, .addFrame ⟨3⟩ ⟨4⟩,
        .register { name := "geo_coord", type := .coordinate },
        .register { name := "source_format", type := .fileFormat },
        .register { name := "world_x", type := .binary64 },
        .register { name := "world_y", type := .binary64 },
        .register { name := "lon", type := .binary64 },
        .setValue .fileFormat ⟨1⟩ ⟨1⟩ .kw18, .setValue .binary64 ⟨2⟩ ⟨2⟩ ⟨0⟩,
        .setValue .binary64 ⟨3⟩ ⟨2⟩ ⟨0⟩, .setValue .binary64 ⟨4⟩ ⟨4⟩ ⟨0⟩]
    let t := (withConfig { initialRowCapacity := 0 }).run
      [.createRow, .createRow, .createRow, .createRow, .addFrame ⟨1⟩ ⟨2⟩, .addFrame ⟨3⟩ ⟨4⟩,
        .register { name := "longitude", type := .coordinate },
        .register { name := "world_y", type := .binary64 },
        .register { name := "lon", type := .binary64 },
        .register { name := "world_x", type := .binary64 },
        .register { name := "source_format", type := .fileFormat },
        .register { name := "geo_coord", type := .coordinate },
        .setRaw ⟨0⟩ ⟨2⟩ [0], .setRaw ⟨5⟩ ⟨4⟩ [0],
        .setValue .fileFormat ⟨4⟩ ⟨1⟩ .kw18, .setValue .binary64 ⟨3⟩ ⟨2⟩ ⟨0⟩,
        .setValue .binary64 ⟨1⟩ ⟨2⟩ ⟨0⟩, .setValue .binary64 ⟨2⟩ ⟨4⟩ ⟨0⟩]
    let g (i : Nat) : ScorableGeoSchema :=
      ⟨⟨"scorable_geo", ⟨i⟩, [], []⟩, { field := ⟨i⟩, name := "geo_coord" }⟩
    (g 0).attach [⟨1⟩] ⟨"lon", "lon"⟩ s = (g 0).attach [⟨1⟩] ⟨"lon", "lat"⟩ s ∧
    (∃ r r' u v, (g 0).attach [⟨1⟩, ⟨3⟩] ⟨"lon", "lon"⟩ s = .ok r u ∧
      (g 0).attach [⟨1⟩, ⟨3⟩] ⟨"lon", "lat"⟩ s = .ok r' v ∧ r ≠ r' ∧
      r.failuresFor ⟨1⟩ = r'.failuresFor ⟨1⟩ ∧ u.slot ⟨0⟩ ⟨2⟩ = v.slot ⟨0⟩ ⟨2⟩) ∧
    SameResult (fun _ _ => True) ((g 0).attach [⟨1⟩, ⟨3⟩] ⟨"lon", "lon"⟩ s)
      ((g 5).attach [⟨1⟩, ⟨3⟩] ⟨"lon", "lon"⟩ t) := by
  intro s t g
  have hs : s.Reachable := ⟨_, _, rfl⟩
  have hg : ∃ d, s.describeField (g 0).geoCoord.field = .ok d ∧ d.type = .coordinate :=
    ⟨{ name := "geo_coord", type := .coordinate }, by decide +kernel, rfl⟩
  have hg' : ∃ d, t.describeField (g 5).geoCoord.field = .ok d ∧ d.type = .coordinate :=
    ⟨{ name := "geo_coord", type := .coordinate }, by decide +kernel, rfl⟩
  have hattach (fallback : GeoFallback)
      (hall : ∀ track ∈ [⟨1⟩, ⟨3⟩], s.Walkable fallback track) :=
    attach_eq (g := g 0) hs.wellFormed ((checkType_eq_ok ..).mpr hg) hall
  have hlon := hattach ⟨"lon", "lon"⟩ (by decide +kernel)
  have hlat := hattach ⟨"lon", "lat"⟩ (by decide +kernel)
  obtain ⟨hnames, -, -⟩ := attach_agrees hs (g 0) [⟨1⟩]
  obtain ⟨-, hmixed, hsame⟩ := attach_agrees hs (g 0) [⟨1⟩, ⟨3⟩]
  refine ⟨hnames (by decide +kernel) _ _, ⟨_, _, _, _, hlon, hlat, by decide +kernel, ?_⟩, ?_⟩
  · obtain ⟨hfailures, hslots⟩ :=
      hmixed _ _ _ _ _ _ hlon hlat ⟨1⟩ (by decide) (by decide +kernel)
    exact ⟨hfailures, hslots ⟨2⟩ (by decide +kernel) ⟨0⟩⟩
  · exact hsame t (g 5) _ ⟨_, _, rfl⟩ hg hg' (by decide +kernel)

end ScorableGeoSchema
end TrackStore
