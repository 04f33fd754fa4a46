import Mathlib.Algebra.BigOperators.Group.List.Basic
import TrackStore.Proofs.Attach.Agreement
import TrackStore.Proofs.Attach.Completion

/-! # Attaching coordinates again, and in another order

The walk reads nothing that it writes, so a second walk comes to the outcomes of the first and
writes what is there already. A frame has one outcome, whichever visit comes to it, so the order of
the tracks shows in nothing but the order of the failures.
-/
namespace TrackStore

namespace Store

variable {s t u : Store} {fallback fallback' : GeoFallback} {field : FieldId}
variable {tracks others : List Row}

section Written
variable {ws : List (Row × Coordinate)}

theorem wellFormed_writeAll (hs : s.WellFormed) (hw : s.Admits field ws)
    (hlive : ∀ w ∈ ws, s.isLive w.1 = true) : (s.writeAll field ws).WellFormed := by
  induction ws using List.reverseRecOn with
  | nil => exact hs
  | append_singleton ws w ih =>
    have hsize : field.index < s.columns.size := hs.index_lt_of_checkType (hw (by simp))
    have hallowed : Change.Allowed (s.writeAll field ws)
        (.write field w.1 (FieldType.encode .coordinate w.2)) := by
      refine ⟨?_, (sameTables_writeAll s field ws).columns ▸ hsize⟩
      rw [isLive_writeAll]
      exact hlive w (List.mem_append_right _ List.mem_cons_self)
    rw [writeAll_concat]
    exact (ih hw.left fun w' hw' => hlive w' (List.mem_append_left _ hw')).apply hallowed

theorem Admits.slot (hs : s.WellFormed) (hw : s.Admits field ws) {type : FieldType}
    (ht : type ≠ .coordinate) {other : FieldId} (h : s.checkType type other = .ok ()) (row : Row) :
    (s.writeAll field ws).slot other row = s.slot other row := by
  by_cases hne : ws = []
  · rw [hne]
    rfl
  · have htype := hw hne
    exact slot_writeAll_of_not_mem (hs.index_lt_of_checkType htype)
      fun he => absurd he (ne_of_checkType ht h htype)

theorem sameNamed_writeAll (hs : s.WellFormed) (hw : s.Admits field ws) {type : FieldType}
    (ht : type ≠ .coordinate) (name : String) (rows : List Row) :
    SameNamed type name rows s (s.writeAll field ws) := by
  have hfield : (s.writeAll field ws).fieldNamed name = s.fieldNamed name := by
    rw [fieldNamed, fieldNamed, lookupField, lookupField, (sameTables_writeAll ..).registry]
  constructor
  · rw [typeNamed, typeNamed, hfield]
  · intro htype row _
    rw [slotNamed, slotNamed, hfield]
    obtain ⟨⟨other, d⟩, hnamed, rfl⟩ := Option.map_eq_some_iff.mp htype
    rw [hnamed]
    exact (hw.slot hs ht (checkType_of_fieldNamed hnamed) row).symm

/-- The walk writes nothing that a walk reads. -/
theorem sameInputs_writeAll (hs : s.WellFormed) (hw : s.Admits field ws) (fallback : GeoFallback)
    (tracks : List Row) : SameInputs fallback tracks s (s.writeAll field ws) where
  validates := by rw [(sameTables_writeAll ..).config]
  live track _ := (isLive_writeAll s field ws track).symm
  frames track _ := (framesOf_writeAll s field ws track).symm
  formats := sameNamed_writeAll hs hw (by decide) _ _
  numbers _ _ _ _ :=
    ⟨sameNamed_writeAll hs hw (by decide) _ _, fun _ => sameNamed_writeAll hs hw (by decide) _ _⟩

end Written

theorem Visit.attaches_iff {v : Visit} :
    v.attaches s fallback = true ↔ ∃ c, v.outcome s fallback = .ok c := by
  unfold Visit.attaches
  cases v.outcome s fallback <;> simp [Except.isOk, Except.toBool]

namespace Attached

variable {vs us : List Visit}

/-- What visits leave behind at a row does not depend on their order and number, nor on the names of
the caller where these make no difference to the row. -/
theorem slot_eq (ht : s.Attached fallback field vs t) (hu : s.Attached fallback' field us u)
    (hmem : ∀ v, v ∈ vs ↔ v ∈ us) {row : Row}
    (houtcome : ∀ v ∈ vs, v.frame = row → v.outcome s fallback = v.outcome s fallback')
    (other : FieldId) : t.slot other row = u.slot other row := by
  by_cases hvisit : other = field ∧ ∃ v ∈ vs, v.frame = row ∧ v.attaches s fallback = true
  · obtain ⟨rfl, v, hv, rfl, hattach⟩ := hvisit
    obtain ⟨c, hc⟩ := Visit.attaches_iff.mp hattach
    rw [ht.written v hv c hc, hu.written v ((hmem v).mp hv) c (houtcome v hv rfl ▸ hc)]
  · have hnone (hfield : other = field) (v : Visit) (hv : v ∈ vs) (hrow : v.frame = row) :
        v.attaches s fallback = false :=
      Bool.eq_false_iff.mpr fun hattach => hvisit ⟨hfield, v, hv, hrow, hattach⟩
    rw [ht.kept other row hnone, hu.kept other row]
    intro hfield v hv hrow
    have hv' := (hmem v).mpr hv
    rw [Visit.attaches, ← houtcome v hv' hrow]
    exact hnone hfield v hv' hrow

theorem unique (ht : s.Attached fallback field vs t) (hu : s.Attached fallback field us u)
    (hmem : ∀ v, v ∈ vs ↔ v ∈ us) : u = t :=
  (ht.tables.symm.trans hu.tables).eq_of_slots fun other _ =>
    (ht.slot_eq hu hmem (fun _ _ _ => rfl) other).symm

/-- Visits that come to the same outcomes a second time leave the same behind. -/
theorem again (ht : s.Attached fallback field vs t) (hu : t.Attached fallback field vs u)
    (houtcome : ∀ v ∈ vs, v.outcome s fallback = v.outcome t fallback) : u = t := by
  refine ht.unique ⟨ht.tables.trans hu.tables, ?_, ?_⟩ fun _ => Iff.rfl
  · intro v hv c hc
    exact hu.written v hv c ((houtcome v hv).symm.trans hc)
  · intro other row hnone
    refine (hu.kept other row fun hfield v hv hrow => ?_).trans (ht.kept other row hnone)
    rw [Visit.attaches, ← houtcome v hv]
    exact hnone hfield v hv hrow

end Attached

theorem Visit.track_of_mem_along {v : Visit} {track : Row} {index : Nat} {frames : List Row}
    (h : v ∈ Visit.along track index frames) : v.track = track := by
  obtain ⟨⟨frame, i⟩, -, rfl⟩ := List.mem_map.mp h
  rfl

/-- The failures of one walk over a track. -/
def failuresOf (s : Store) (fallback : GeoFallback) (track : Row) : List ResolutionFailure :=
  (Visit.along track 0 (s.framesOf track)).filterMap (·.failure? s fallback)

theorem track_of_mem_failuresOf {track : Row} {f : ResolutionFailure}
    (h : f ∈ s.failuresOf fallback track) : f.track = track := by
  obtain ⟨v, hv, hf⟩ := List.mem_filterMap.mp h
  rw [← Visit.track_of_mem_along hv]
  unfold Visit.failure? at hf
  split at hf <;> cases hf
  rfl

/-- A report has the failures of a track as often as the track is listed. -/
theorem failuresFor_expectedReport (s : Store) (fallback : GeoFallback) (tracks : List Row)
    (track : Row) :
    (s.expectedReport fallback tracks).failuresFor track =
      (List.replicate (tracks.count track) (s.failuresOf fallback track)).flatten := by
  induction tracks with
  | nil => rfl
  | cons head tracks ih =>
    have hcons : (s.expectedReport fallback (head :: tracks)).failuresFor track =
        (s.failuresOf fallback head).filter (·.track == track) ++
          (s.expectedReport fallback tracks).failuresFor track := by
      simp only [AttachReport.failuresFor, expectedReport, visits_cons, List.filterMap_append,
        List.filter_append, failuresOf]
    rw [hcons, ih]
    by_cases hhead : head = track
    · subst hhead
      have hall : (s.failuresOf fallback head).filter (·.track == head) =
          s.failuresOf fallback head :=
        List.filter_eq_self.mpr fun f hf => beq_iff_eq.mpr (track_of_mem_failuresOf hf)
      rw [hall, List.count_cons_self, List.replicate_succ, List.flatten_cons]
    · have hnone : (s.failuresOf fallback head).filter (·.track == track) = [] :=
        List.filter_eq_nil_iff.mpr fun f hf he =>
          hhead ((track_of_mem_failuresOf hf).symm.trans (beq_iff_eq.mp he))
      rw [hnone, List.nil_append, List.count_cons_of_ne hhead]

theorem visits_perm (h : tracks.Perm others) : (s.visits tracks).Perm (s.visits others) :=
  h.flatMap_right _

end Store

namespace ScorableGeoSchema
open Store

variable {s t : Store} {fallback : GeoFallback} {g : ScorableGeoSchema} {tracks : List Row}
variable {r : AttachReport}

/-- A second walk reads what the first read and writes what the first wrote. -/
theorem attach_again (hs : s.WellFormed) (hg : s.checkType .coordinate g.geoCoord.field = .ok ())
    (h : g.attach tracks fallback s = .ok r t) : g.attach tracks fallback t = .ok r t := by
  obtain ⟨hall, hadmits, rfl, ht⟩ := attach_ok hs h
  have hfirst := attached_writeAll hs hadmits fun _ hv => hv
  have hsame := sameInputs_writeAll hs hadmits fallback tracks
  have hg' := (checkType_writeAll s g.geoCoord.field (s.writes fallback (s.visits tracks))
    .coordinate g.geoCoord.field).trans hg
  have hwell := wellFormed_writeAll hs hadmits fun w hw => by
    obtain ⟨v, hv, hrow, -⟩ := mem_writes.mp hw
    exact hrow ▸ hs.membership.frame_live (mem_frames_of_visit hv).2
  rw [← ht] at hfirst hsame hg' hwell
  have hvisits : s.visits tracks = t.visits tracks := hsame.visits fun _ htrack => htrack
  have hsecond := attached_writeAll hwell
    (admits_of_checkType (t.writes fallback (t.visits tracks)) hg') fun _ hv => hv
  rw [← hvisits] at hsecond
  rw [attach_eq hwell hg' fun track htrack => hsame.walkable htrack (hall track htrack),
    ← hsame.expectedReport hall, ← hvisits, hfirst.again hsecond fun v hv =>
      hsame.outcome hv (hall v.track (mem_frames_of_visit hv).1)]

theorem attach_perm (hs : s.WellFormed) (hg : s.checkType .coordinate g.geoCoord.field = .ok ())
    (h : g.attach tracks fallback s = .ok r t) {others : List Row} (hperm : tracks.Perm others) :
    ∃ r', g.attach others fallback s = .ok r' t ∧ r'.tracks = r.tracks ∧ r'.frames = r.frames ∧
      r'.attached = r.attached ∧ r'.usedFallback = r.usedFallback ∧
      r'.failures.Perm r.failures ∧ ∀ track, r'.failuresFor track = r.failuresFor track := by
  obtain ⟨hall, hadmits, rfl, rfl⟩ := attach_ok hs h
  have hmem (track : Row) (htrack : track ∈ others) := hall track (hperm.mem_iff.mpr htrack)
  have hvisits : (s.visits others).Perm (s.visits tracks) := (visits_perm hperm).symm
  have hwalk := attach_eq (g := g) hs hg hmem
  have hfirst := attached_writeAll hs hadmits fun _ hv => hv
  have hother := attached_writeAll hs (admits_of_checkType (s.writes fallback (s.visits others))
    hg) fun _ hv => hv
  rw [hfirst.unique hother fun v => hvisits.symm.mem_iff] at hwalk
  refine ⟨_, hwalk, hperm.length_eq.symm, (hperm.map _).sum_eq.symm, hvisits.countP_eq _,
    hvisits.any_eq, hvisits.filterMap _, fun track => ?_⟩
  rw [failuresFor_expectedReport, failuresFor_expectedReport, hperm.count_eq]

/-- Where the walk comes to its end, a second walk answers the same and changes nothing, and a walk
over the tracks in another order leaves the same store behind and answers the same up to the order
of the failures, which is kept within each track. -/
theorem attach_repeats (hs : s.Reachable)
    (hg : ∃ d, s.describeField g.geoCoord.field = .ok d ∧ d.type = .coordinate)
    (h : g.attach tracks fallback s = .ok r t) :
    g.attach tracks fallback t = .ok r t ∧
    ∀ others, tracks.Perm others → ∃ r', g.attach others fallback s = .ok r' t ∧
      r'.tracks = r.tracks ∧ r'.frames = r.frames ∧ r'.attached = r.attached ∧
      r'.usedFallback = r.usedFallback ∧ r'.failures.Perm r.failures ∧
      ∀ track, r'.failuresFor track = r.failuresFor track := by
  have htype := (checkType_eq_ok ..).mpr hg
  exact ⟨attach_again hs.wellFormed htype h, fun _ hperm => attach_perm hs.wellFormed htype h hperm⟩

theorem attach_repeats_mixed :
    let s := (withConfig { initialRowCapacity := 0 }).run
      [.createRow, .createRow, .createRow, .createRow, .addFrame ⟨1⟩ ⟨2⟩, .addFrame ⟨3⟩ ⟨4⟩,
        .register { name := "geo_coord", type := .coordinate },
        .register { name := "source_format", type := .fileFormat },
        .register { name := "world_x", type := .binary64 },
        .register { name := "world_y", type := .binary64 },
        .setValue .fileFormat ⟨1⟩ ⟨1⟩ .kw18,
        .setValue .binary64 ⟨2⟩ ⟨2⟩ ⟨0⟩, .setValue .binary64 ⟨3⟩ ⟨2⟩ ⟨0⟩]
    let g : ScorableGeoSchema :=
      ⟨⟨"scorable_geo", ⟨0⟩, [], []⟩, { field := ⟨0⟩, name := "geo_coord" }⟩
    ∃ r t, g.attach [⟨1⟩, ⟨3⟩, ⟨1⟩] ⟨"lon", "geo_coord"⟩ s = .ok r t ∧ r.attached = 2 ∧
      r.failures.length = 1 ∧ g.attach [⟨1⟩, ⟨3⟩, ⟨1⟩] ⟨"lon", "geo_coord"⟩ t = .ok r t ∧
      ∃ r', g.attach [⟨3⟩, ⟨1⟩, ⟨1⟩] ⟨"lon", "geo_coord"⟩ s = .ok r' t ∧
        r'.attached = r.attached ∧ r'.failures.Perm r.failures := by
  intro s g
  have hg : ∃ d, s.describeField g.geoCoord.field = .ok d ∧ d.type = .coordinate :=
    ⟨{ name := "geo_coord", type := .coordinate }, by decide +kernel, rfl⟩
  have hs : s.Reachable := ⟨_, _, rfl⟩
  have hwalk : ∀ track ∈ [⟨1⟩, ⟨3⟩, ⟨1⟩], s.Walkable ⟨"lon", "geo_coord"⟩ track := by
    decide +kernel
  have hfirst := attach_eq (g := g) hs.wellFormed ((checkType_eq_ok ..).mpr hg) hwalk
  obtain ⟨hagain, hothers⟩ := attach_repeats hs hg hfirst
  obtain ⟨r', hother, -, -, hattached, -, hfailures, -⟩ :=
    hothers [⟨3⟩, ⟨1⟩, ⟨1⟩] (by decide +kernel)
  exact ⟨_, _, hfirst, by decide +kernel, by decide +kernel, hagain, r', hother, hattached,
    hfailures⟩

end ScorableGeoSchema
end TrackStore
