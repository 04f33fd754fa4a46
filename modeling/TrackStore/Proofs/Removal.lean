import Mathlib.Data.List.Sort
import TrackStore.Proofs.Deletion
import TrackStore.Schema.Track

/-! # Tracks that are removed

The frames of a track own no frames and belong to no other track, so each of them is deleted when
its turn comes, and the track itself has none left at the end. What is removed is gone from every
table, and what stays is as it was.
-/
namespace TrackStore

namespace Store

/-- No table of the store refers to the row. -/
structure Erased (s : Store) (row : Row) : Prop where
  not_live : s.isLive row = false
  no_slot : ∀ field column, s.column field = .ok column → row ∉ column
  no_frames : row ∉ s.frames
  not_frame : ∀ track, row ∉ s.framesOf track
  no_owner : s.owners[row]? = none
  not_owner : ∀ frame : Row, s.owners[frame]? ≠ some row

/-- The second store is the first without some rows. -/
structure Without (s : Store) (rows : List Row) (t : Store) : Prop where
  config : t.config = s.config
  registry : t.registry = s.registry
  issued : t.rows.issued = s.rows.issued
  live : ∀ row, t.isLive row = true ↔ s.isLive row = true ∧ row ∉ rows
  slot : ∀ field row, t.slot field row = if row ∈ rows then none else s.slot field row
  owners : ∀ row, t.owners[row]? = if row ∈ rows then none else s.owners[row]?
  framesOf : ∀ row, t.framesOf row = (s.framesOf row).filter (· ∉ rows)

/-- What is left when a track is removed. The track that it was a frame of, if it was one, has lost
this frame and no other. -/
structure Removed (s : Store) (track : Row) (t : Store) : Prop where
  config : t.config = s.config
  registry : t.registry = s.registry
  issued : t.rows.issued = s.rows.issued
  liveRows : t.liveRows = s.liveRows.filter fun row => row ≠ track ∧ row ∉ s.framesOf track
  erased : ∀ row, row = track ∨ row ∈ s.framesOf track → t.Erased row
  slot : ∀ row, row ≠ track → row ∉ s.framesOf track →
    ∀ field, t.slot field row = s.slot field row
  owners : ∀ row, row ≠ track → row ∉ s.framesOf track → t.owners[row]? = s.owners[row]?
  frames_owner : ∀ row, s.owners[track]? = some row → t.framesOf row = (s.framesOf row).erase track
  frames_other : ∀ row, row ≠ track → row ∉ s.framesOf track → s.owners[track]? ≠ some row →
    t.framesOf row = s.framesOf row

variable {s t u : Store} {rows others : List Row} {row track : Row}

theorem WellFormed.erased (hs : s.WellFormed) (h : s.isLive row = false) : s.Erased row where
  not_live := h
  no_slot _ _ hc := not_mem_column hs h hc
  no_frames hmem := by simp [hs.membership.keys_live row hmem] at h
  not_frame track hmem := by simp [hs.membership.frame_live hmem] at h
  no_owner := hs.owner_of_not_live h
  not_owner frame ho := by simp [(hs.membership.owner_live row frame ho).2] at h

namespace Without

theorem refl (s : Store) : s.Without [] s := by
  constructor <;> simp

theorem trans (h : s.Without rows t) (h' : t.Without others u) : s.Without (rows ++ others) u where
  config := h'.config.trans h.config
  registry := h'.registry.trans h.registry
  issued := h'.issued.trans h.issued
  live row := by rw [h'.live, h.live, List.mem_append, not_or, and_assoc]
  slot field row := by
    rw [h'.slot, h.slot]
    by_cases hr : row ∈ rows <;> by_cases ho : row ∈ others <;> simp [hr, ho]
  owners row := by
    rw [h'.owners, h.owners]
    by_cases hr : row ∈ rows <;> by_cases ho : row ∈ others <;> simp [hr, ho]
  framesOf row := by
    rw [h'.framesOf, h.framesOf, List.filter_filter]
    refine List.filter_congr fun frame _ => ?_
    by_cases hr : frame ∈ rows <;> by_cases ho : frame ∈ others <;> simp [hr, ho]

end Without

theorem without_drop (hs : s.Membership) (h : Change.Allowed s (.drop row)) :
    s.Without [row] (s.drop row) where
  config := config_apply s (.drop row)
  registry := registry_apply s (.drop row)
  issued := by rw [rows_drop]; rfl
  live other := by
    rw [show (s.drop row).isLive other = _ from isLive_apply s (.drop row) other]
    simp
  slot field other := by simp only [slot_drop, List.mem_singleton]
  owners other := by simp only [owners_drop, List.mem_singleton]
  framesOf other := by simp only [hs.framesOf_drop h.2, List.mem_singleton]

/-- Distinct rows without frames are deleted one after the other, all of them. -/
theorem deleteRows_without (hs : s.WellFormed) (hrows : ∀ row ∈ rows, Change.Allowed s (.drop row))
    (hnodup : rows.Nodup) :
    ∃ t, rows.forM deleteRow s = .ok () t ∧ t.WellFormed ∧ s.Without rows t := by
  induction rows generalizing s with
  | nil => exact ⟨s, rfl, hs, .refl s⟩
  | cons row rows ih =>
    rw [List.nodup_cons] at hnodup
    rw [List.forall_mem_cons] at hrows
    have hdrop := without_drop hs.membership hrows.1
    -- The rows that are left are live and without frames after the deletion as before it.
    have hrest : ∀ other ∈ rows, Change.Allowed (s.drop row) (.drop other) := by
      intro other hother
      have hne : other ≠ row := fun he => hnodup.1 (he ▸ hother)
      obtain ⟨hlive, hnone⟩ := hrows.2 other hother
      refine ⟨(hdrop.live other).mpr ⟨hlive, by simpa using hne⟩, ?_⟩
      rw [hdrop.framesOf, hnone, List.filter_nil]
    obtain ⟨t, ht, hwf, hwithout⟩ := ih (hs.apply hrows.1) hrest hnodup.2
    refine ⟨t, ?_, hwf, hdrop.trans hwithout⟩
    simp only [List.forM, bind, EStateM.bind, deleteRow_eq_drop hrows.1]
    exact ht

/-- The frames of a track can be deleted before it, and the track after them. -/
theorem removeTrack_without (hs : s.WellFormed) (hlive : s.isLive track = true) :
    ∃ t, Schema.removeTrack track s = .ok () t ∧ t.WellFormed ∧
      s.Without (s.framesOf track ++ [track]) t := by
  have hframes : ∀ frame ∈ s.framesOf track, Change.Allowed s (.drop frame) := fun frame hmem =>
    ⟨hs.membership.frame_live hmem,
      hs.membership.one_level track frame ((hs.membership.owner_iff track frame).mpr hmem)⟩
  obtain ⟨u, hdelete, hu, hwithout⟩ := deleteRows_without hs hframes (hs.membership.nodup track)
  have hlast : Change.Allowed u (.drop track) := by
    refine ⟨(hwithout.live track).mpr ⟨hlive, hs.membership.not_mem_framesOf track⟩, ?_⟩
    rw [hwithout.framesOf, List.filter_eq_nil_iff]
    intro frame hframe
    simpa using hframe
  refine ⟨u.drop track, ?_, hu.apply hlast, hwithout.trans (without_drop hu.membership hlast)⟩
  simp only [Schema.removeTrack, bind, EStateM.bind, query_apply,
    (framesAt_eq_ok ..).mpr ⟨hlive, rfl⟩, hdelete, deleteRow_eq_drop hlast]

/-- Both lists ascend and have the same members. -/
theorem Without.liveRows (h : s.Without rows t) :
    t.liveRows = s.liveRows.filter (· ∉ rows) := by
  refine t.rows.pairwise_liveRows.eq_of_mem_iff (s.rows.pairwise_liveRows.filter _) fun row => ?_
  rw [Store.liveRows, List.mem_filter, decide_eq_true_eq, RowAllocator.mem_liveRows,
    RowAllocator.mem_liveRows]
  exact h.live row

/-- The frames of two tracks are different rows. -/
theorem Membership.not_mem_of_ne (hs : s.Membership) (hne : row ≠ track) {frame : Row}
    (hframe : frame ∈ s.framesOf row) : frame ∉ s.framesOf track :=
  fun hmem => hne (hs.track_unique hframe hmem)

theorem Without.removed (h : s.Without (s.framesOf track ++ [track]) t) (hs : s.Membership)
    (ht : t.WellFormed) : s.Removed track t := by
  have hgone (row : Row) :
      row ∈ s.framesOf track ++ [track] ↔ row = track ∨ row ∈ s.framesOf track := by
    rw [List.mem_append, List.mem_singleton, or_comm]
  have hkept {row : Row} (hne : row ≠ track) (hrow : row ∉ s.framesOf track) :
      row ∉ s.framesOf track ++ [track] := by
    rw [hgone, not_or]
    exact ⟨hne, hrow⟩
  constructor
  case config => exact h.config
  case registry => exact h.registry
  case issued => exact h.issued
  case liveRows =>
    rw [h.liveRows]
    exact List.filter_congr fun row _ => by simp only [hgone, not_or]
  case erased =>
    intro row hrow
    refine ht.erased (Bool.eq_false_iff.mpr fun hlive => ?_)
    exact ((h.live row).mp hlive).2 ((hgone row).mpr hrow)
  case slot => exact fun row hne hrow field => (h.slot field row).trans (if_neg (hkept hne hrow))
  case owners => exact fun row hne hrow => (h.owners row).trans (if_neg (hkept hne hrow))
  case frames_owner =>
    intro row howner
    have hnone := hs.one_level row track howner
    rw [h.framesOf, hnone, (hs.nodup row).erase_eq_filter]
    exact List.filter_congr fun frame _ => by simp [bne, beq_eq_decide]
  case frames_other =>
    intro row hne hrow howner
    rw [h.framesOf, List.filter_eq_self]
    intro frame hframe
    refine decide_eq_true (hkept ?_ (hs.not_mem_of_ne hne hframe))
    rintro rfl
    exact howner ((hs.owner_iff row frame).mpr hframe)

end Store

namespace Schema
open Store

variable {s : Store}

/-- The removal of a track comes to its end, under any schema and any settings, and takes the track
and its frames out of the store and nothing else. What is not live is refused. -/
theorem removeTrack_removes (hs : s.Reachable) (track : Row) :
    (s.isLive track = true → ∃ t, removeTrack track s = .ok () t ∧ s.Removed track t) ∧
    (s.isLive track = false → removeTrack track s = .error (.staleRow track) s) := by
  constructor
  · intro hlive
    obtain ⟨t, hremove, ht, hwithout⟩ := removeTrack_without hs.wellFormed hlive
    exact ⟨t, hremove, hwithout.removed hs.wellFormed.membership ht⟩
  · intro hlive
    simp only [removeTrack, bind, EStateM.bind, query_apply, (refuses_of_not_live hlive).framesAt]

theorem removeTrack_removes_frame :
    let s := (withConfig { initialRowCapacity := 0, doubleDelete := .error }).run
      [.createRow, .createRow, .createRow, .createRow, .register { name := "flag", type := .bool },
        .addFrame ⟨1⟩ ⟨2⟩, .addFrame ⟨1⟩ ⟨3⟩, .setRaw ⟨0⟩ ⟨2⟩ [1], .setRaw ⟨0⟩ ⟨4⟩ [0],
        .deleteRow ⟨2⟩, .createRow, .addFrame ⟨1⟩ ⟨5⟩]
    (∃ t, removeTrack ⟨1⟩ s = .ok () t ∧ s.Removed ⟨1⟩ t) ∧
      (∃ t, removeTrack ⟨3⟩ s = .ok () t ∧ s.Removed ⟨3⟩ t) ∧
      removeTrack ⟨2⟩ s = .error (.staleRow ⟨2⟩) s := by
  intro s
  have hs : s.Reachable := ⟨_, _, rfl⟩
  exact ⟨(removeTrack_removes hs ⟨1⟩).1 (by decide +kernel),
    (removeTrack_removes hs ⟨3⟩).1 (by decide +kernel),
    (removeTrack_removes hs ⟨2⟩).2 (by decide +kernel)⟩

end Schema
end TrackStore
