import TrackStore.Proofs.Atomicity
import TrackStore.Proofs.Deletion

/-! # Joining and leaving a track

What it takes to become a frame of a track, and what becoming one and leaving again do to the store.
The owner of a row is looked at before the level of either row, so a frame of another track is
refused for its owner, whatever else is wrong.
-/
namespace TrackStore.Store

/-- The stores differ in frames and owners at most. -/
structure SameContents (s t : Store) : Prop where
  config : t.config = s.config
  rows : t.rows = s.rows
  registry : t.registry = s.registry
  columns : t.columns = s.columns

/-- The second store is the first with one more frame of the track, behind the others. -/
structure Joined (s : Store) (track frame : Row) (t : Store) : Prop extends SameContents s t where
  frames_track : t.framesOf track = s.framesOf track ++ [frame]
  frames_other : ∀ row, row ≠ track → t.framesOf row = s.framesOf row
  owner_frame : t.owners[frame]? = some track
  owner_other : ∀ row, row ≠ frame → t.owners[row]? = s.owners[row]?

/-- The second store is the first with a row taken off its track; the order of the others stays. -/
structure Left (s : Store) (frame : Row) (t : Store) : Prop extends SameContents s t where
  frames : ∀ row, t.framesOf row = (s.framesOf row).filter (· ≠ frame)
  owner_frame : t.owners[frame]? = none
  owner_other : ∀ row, row ≠ frame → t.owners[row]? = s.owners[row]?

variable {s t u : Store} {track frame row : Row}

namespace SameContents

theorem trans (h : SameContents s t) (h' : SameContents t u) : SameContents s u where
  config := h'.config.trans h.config
  rows := h'.rows.trans h.rows
  registry := h'.registry.trans h.registry
  columns := h'.columns.trans h.columns

theorem checkRow (h : SameContents s t) (row : Row) : t.checkRow row = s.checkRow row := by
  rw [Store.checkRow, Store.checkRow, isLive, isLive, h.rows]

theorem framesAt (h : SameContents s t) (hframes : t.framesOf row = s.framesOf row) :
    t.framesAt row = s.framesAt row := by
  simp only [Store.framesAt, h.checkRow, hframes]

theorem owningTrack (h : SameContents s t) (howner : t.owners[row]? = s.owners[row]?) :
    t.owningTrack row = s.owningTrack row := by
  simp only [Store.owningTrack, h.checkRow, howner]

end SameContents

theorem joined_join (s : Store) (track frame : Row) :
    s.Joined track frame (s.join track frame) where
  config := rfl
  rows := rfl
  registry := rfl
  columns := rfl
  frames_track := (framesOf_join ..).trans (if_pos rfl)
  frames_other _ hrow := (framesOf_join ..).trans (if_neg hrow)
  owner_frame := (owners_join ..).trans (if_pos rfl)
  owner_other _ hrow := (owners_join ..).trans (if_neg hrow)

theorem addFrame_eq_join (h : Change.Allowed s (.join track frame)) :
    addFrame track frame s = .ok () (s.join track frame) := by
  rw [addFrame_apply, (mayJoin_eq_true ..).mpr h]

theorem addFrame_of_owner (hs : s.WellFormed) (ho : s.owners[frame]? = some track) :
    addFrame track frame s = .ok () s := by
  have hframe := (hs.membership.owner_live track frame ho).1
  rw [addFrame_apply, (mayJoin_eq_false hs).mpr ((owningTrack_eq_ok ..).mpr ⟨hframe, ho⟩)]

theorem addFrame_of_other_owner (hs : s.WellFormed) (htrack : s.isLive track = true)
    (hne : track ≠ frame) {owner : Row} (ho : s.owners[frame]? = some owner)
    (howner : owner ≠ track) :
    addFrame track frame s = .error (.frameOwnership frame owner) s := by
  have hframe := (hs.membership.owner_live owner frame ho).1
  rw [addFrame_apply, mayJoin_of_live htrack hframe hne, ho]
  simp only [if_neg howner]

theorem addFrame_eq_ok_iff (hs : s.WellFormed) :
    (∃ t, addFrame track frame s = .ok () t) ↔
      s.isLive track = true ∧ s.isLive frame = true ∧ track ≠ frame ∧
        (s.owners[frame]? = some track ∨
          s.owners[frame]? = none ∧ s.framesOf frame = [] ∧ s.owners[track]? = none) := by
  constructor
  · rintro ⟨t, h⟩
    rw [addFrame_apply] at h
    cases hjoin : s.mayJoin track frame with
    | error e => simp [hjoin] at h
    | ok joins =>
      obtain ⟨htrack, hframe, hne⟩ := live_of_mayJoin hjoin
      refine ⟨htrack, hframe, hne, ?_⟩
      cases joins with
      | false => exact .inl ((owningTrack_eq_ok ..).mp ((mayJoin_eq_false hs).mp hjoin)).2
      | true => exact .inr ((mayJoin_eq_true ..).mp hjoin).2.2.2
  · rintro ⟨htrack, hframe, hne, ho | hfree⟩
    · exact ⟨s, addFrame_of_owner hs ho⟩
    · exact ⟨_, addFrame_eq_join ⟨htrack, hframe, hne, hfree⟩⟩

theorem left_leave (hs : s.Membership) (frame : Row) : s.Left frame (s.leave frame) where
  config := config_leave s frame
  rows := rows_leave s frame
  registry := registry_leave s frame
  columns := columns_leave s frame
  frames := hs.framesOf_leave frame
  owner_frame := (owners_leave ..).trans (if_pos rfl)
  owner_other _ hrow := (owners_leave ..).trans (if_neg hrow)

theorem detachFrame_of_live (h : s.isLive frame = true) :
    detachFrame frame s = .ok s.owners[frame]? (s.leave frame) := by
  rw [detachFrame_apply, (owningTrack_eq_ok ..).mpr ⟨h, rfl⟩]

/-- A row that joined and left again leaves no trace. -/
theorem Joined.left (hs : s.Membership) (hfree : s.owners[frame]? = none)
    (h : s.Joined track frame t) (hleft : t.Left frame u) (row : Row) :
    u.framesOf row = s.framesOf row ∧ u.owners[row]? = s.owners[row]? := by
  have hold : (s.framesOf row).filter (· ≠ frame) = s.framesOf row :=
    hs.filter_framesOf (by simp [hfree])
  constructor
  · rw [hleft.frames]
    by_cases hrow : row = track
    · subst hrow
      simp only [h.frames_track, List.filter_append, hold]
      simp
    · rw [h.frames_other row hrow, hold]
  · by_cases hrow : row = frame
    · rw [hrow, hleft.owner_frame, hfree]
    · rw [hleft.owner_other row hrow, h.owner_other row hrow]

/-- What has left its track can join it again. -/
theorem Left.rejoins (hs : s.Membership) (ho : s.owners[frame]? = some track)
    (h : s.Left frame t) : Change.Allowed t (.join track frame) := by
  obtain ⟨hframe, htrack⟩ := hs.owner_live track frame ho
  have hne : track ≠ frame := by
    rintro rfl
    exact hs.self_ne track ho
  refine ⟨?_, ?_, hne, h.owner_frame, ?_, ?_⟩
  · rw [isLive, h.rows]
    exact htrack
  · rw [isLive, h.rows]
    exact hframe
  · rw [h.frames, hs.one_level track frame ho, List.filter_nil]
  · rw [h.owner_other track hne]
    -- A track that were a frame itself would have no frames.
    cases htop : s.owners[track]? with
    | none => rfl
    | some top =>
      have hmem := (hs.owner_iff track frame).mp ho
      rw [hs.one_level top track htop] at hmem
      cases hmem

end TrackStore.Store
