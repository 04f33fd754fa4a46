import TrackStore.Proofs.Attach.Walk

/-! # The outcome of attaching coordinates

A frame is in one track only, so all visits to it come to one outcome, and the store in which the
walk ends holds the coordinate of every frame that has one.
-/
namespace TrackStore

namespace Store
variable {s : Store} {fallback : GeoFallback} {tracks : List Row}

theorem mem_frames_of_visit {v : Visit} (h : v ∈ s.visits tracks) :
    v.track ∈ tracks ∧ v.frame ∈ s.framesOf v.track := by
  simp only [visits, Visit.along, List.mem_flatMap, List.mem_map, Prod.exists,
    List.mk_mem_zipIdx_iff_getElem?] at h
  obtain ⟨track, htrack, frame, index, hframe, rfl⟩ := h
  exact ⟨htrack, List.mem_of_getElem? hframe⟩

theorem mem_writes {vs : List Visit} {row : Row} {c : Coordinate} :
    (row, c) ∈ s.writes fallback vs ↔ ∃ v ∈ vs, v.frame = row ∧ v.outcome s fallback = .ok c := by
  have htoOption (o : Except ResolutionReason Coordinate) (c : Coordinate) :
      o.toOption = some c ↔ o = .ok c := by
    cases o <;> simp [Except.toOption]
  simp only [writes, List.mem_filterMap, Option.map_eq_some_iff, Prod.mk.injEq, htoOption]
  constructor
  · rintro ⟨v, hv, c', ho, hrow, rfl⟩
    exact ⟨v, hv, hrow, ho⟩
  · rintro ⟨v, hv, hrow, ho⟩
    exact ⟨v, hv, c, ho, hrow, rfl⟩

/-- Visits to one frame come to one outcome: they are in one track. -/
theorem outcome_eq_of_frame_eq (hs : s.Membership) (fallback : GeoFallback) {v w : Visit}
    (hv : v ∈ s.visits tracks) (hw : w ∈ s.visits tracks) (h : w.frame = v.frame) :
    w.outcome s fallback = v.outcome s fallback := by
  have htrack : w.track = v.track :=
    hs.track_unique (mem_frames_of_visit hw).2 (h ▸ (mem_frames_of_visit hv).2)
  simp only [Visit.outcome, Visit.source, htrack, h]

end Store

namespace ScorableGeoSchema
open Store

variable {s : Store} {fallback : GeoFallback} {g : ScorableGeoSchema} {tracks : List Row}

/-- Attaching coordinates answers the report that is counted frame by frame in the store at the
start, and the store at the end differs from that at the start in the coordinates of the frames that
have one. -/
theorem attach_outcomes (hs : s.Reachable)
    (hg : ∃ d, s.describeField g.geoCoord.field = .ok d ∧ d.type = .coordinate)
    (ht : ∀ track ∈ tracks, s.Walkable fallback track) :
    ∃ t, g.attach tracks fallback s = .ok (s.expectedReport fallback tracks) t ∧ SameTables s t ∧
      (∀ v ∈ s.visits tracks, ∀ c, v.outcome s fallback = .ok c →
        t.slot g.geoCoord.field v.frame = some (FieldType.encode .coordinate c)) ∧
      ∀ field row,
        (field = g.geoCoord.field →
          ∀ v ∈ s.visits tracks, v.frame = row → v.attaches s fallback = false) →
        t.slot field row = s.slot field row := by
  have htype := (checkType_eq_ok ..).mpr hg
  have hsize : g.geoCoord.field.index < s.columns.size := by
    rw [hs.wellFormed.columns]
    exact index_lt_of_checkType htype
  refine ⟨_, attach_eq hs.wellFormed htype ht, sameTables_writeAll .., ?_, ?_⟩
  · intro v hv c hc
    refine slot_writeAll_of_mem hsize (mem_writes.mpr ⟨v, hv, rfl, hc⟩) ?_
    rintro ⟨row, c'⟩ hw rfl
    obtain ⟨w, hwv, hframe, hc'⟩ := mem_writes.mp hw
    have hsame := outcome_eq_of_frame_eq hs.wellFormed.membership fallback hv hwv hframe
    exact Except.ok.inj (hc'.symm.trans (hsame.trans hc))
  · intro field row hnone
    refine slot_writeAll_of_not_mem hsize fun hfield => ?_
    rintro ⟨row', c⟩ hw rfl
    obtain ⟨v, hv, hframe, hc⟩ := mem_writes.mp hw
    have hattach := hnone hfield v hv hframe
    simp [Visit.attaches, hc, Except.isOk, Except.toBool] at hattach

/-- A track with coordinates of its own, one of which is out of range; one that needs the names of
the caller and has one number too few; and one whose latitudes are texts. -/
theorem attach_outcomes_mixed :
    let s := (withConfig { initialRowCapacity := 0 }).run
      [.createRow, .createRow, .createRow, .createRow, .createRow, .createRow, .createRow,
        .createRow, .addFrame ⟨1⟩ ⟨2⟩, .addFrame ⟨1⟩ ⟨3⟩, .addFrame ⟨4⟩ ⟨5⟩, .addFrame ⟨4⟩ ⟨6⟩,
        .addFrame ⟨7⟩ ⟨8⟩,
        .register { name := "geo_coord", type := .coordinate },
        .register { name := "source_format", type := .fileFormat },
        .register { name := "world_x", type := .binary64 },
        .register { name := "world_y", type := .binary64 },
        .register { name := "lon", type := .binary64 },
        .register { name := "lat", type := .binary64 },
        .register { name := "apix_longitude", type := .binary64 },
        .register { name := "apix_latitude", type := .text },
        .setValue .fileFormat ⟨1⟩ ⟨1⟩ .kw18, .setValue .fileFormat ⟨1⟩ ⟨4⟩ .csv,
        .setValue .fileFormat ⟨1⟩ ⟨7⟩ .apix,
        .setValue .binary64 ⟨2⟩ ⟨2⟩ ⟨0⟩, .setValue .binary64 ⟨3⟩ ⟨2⟩ ⟨0⟩,
        .setValue .binary64 ⟨2⟩ ⟨3⟩ ⟨0⟩, .setValue .binary64 ⟨3⟩ ⟨3⟩ ⟨0x4056C00000000000⟩,
        .setValue .binary64 ⟨4⟩ ⟨5⟩ ⟨0⟩, .setValue .binary64 ⟨5⟩ ⟨5⟩ ⟨0⟩,
        .setValue .binary64 ⟨4⟩ ⟨6⟩ ⟨0⟩]
    let g : ScorableGeoSchema :=
      ⟨⟨"scorable_geo", ⟨0⟩, [], []⟩, { field := ⟨0⟩, name := "geo_coord" }⟩
    let tooFarNorth : ResolutionFailure :=
      ⟨⟨1⟩, ⟨3⟩, 1, "kw18", .outOfRange ⟨0x4056C00000000000⟩ ⟨0⟩⟩
    ∃ t, g.attach [⟨1⟩, ⟨4⟩, ⟨7⟩, ⟨1⟩] ⟨"lon", "lat"⟩ s =
        .ok { tracks := 4, frames := 7, attached := 3, usedFallback := true,
              failures := [tooFarNorth, ⟨⟨4⟩, ⟨6⟩, 1, "csv", .noSourceField ["lon", "lat"]⟩,
                ⟨⟨7⟩, ⟨8⟩, 0, "apix",
                  .sourceTypeConflict "apix_latitude" "alloc::string::String"⟩,
                tooFarNorth] } t ∧
      t.slot ⟨0⟩ ⟨5⟩ = some (FieldType.encode .coordinate ⟨⟨0⟩, ⟨0⟩⟩) ∧ t.slot ⟨0⟩ ⟨3⟩ = none := by
  intro s g tooFarNorth
  let fallback : GeoFallback := ⟨"lon", "lat"⟩
  let tracks : List Row := [⟨1⟩, ⟨4⟩, ⟨7⟩, ⟨1⟩]
  have hg : ∃ d, s.describeField g.geoCoord.field = .ok d ∧ d.type = .coordinate :=
    ⟨{ name := "geo_coord", type := .coordinate }, by decide +kernel, rfl⟩
  have htracks : ∀ track ∈ tracks, s.Walkable fallback track := by decide +kernel
  obtain ⟨t, hattach, -, hwritten, hkept⟩ := attach_outcomes ⟨_, _, rfl⟩ hg htracks
  refine ⟨t, hattach.trans ?_, hwritten ⟨⟨4⟩, 0, ⟨5⟩⟩ (by decide +kernel) _ (by decide +kernel), ?_⟩
  · exact congrArg (EStateM.Result.ok · t) (by decide +kernel)
  · exact (hkept ⟨0⟩ ⟨3⟩ (by decide +kernel)).trans (by decide +kernel)

end ScorableGeoSchema
end TrackStore
