import TrackStore.Proofs.ListedFields

/-! # A track copied frame by frame

The stores that the copying of a track passes through. The copies get the next numbers, the track
first and then its frames in their order, so which row becomes the copy of which is known from the
start. What was there before is never written, so what a copy takes from it is what it held then.
-/
namespace TrackStore

namespace Store

/-- The copy of a track or of one of its frames. -/
def copyOf (s : Store) (src row : Row) : Row :=
  ⟨s.rows.next + (src :: s.framesOf src).idxOf row⟩

section CopyOf
variable {s : Store} {src : Row}

theorem next_le_copyOf (row : Row) : s.rows.next ≤ (s.copyOf src row).id := Nat.le_add_right ..

theorem copyOf_self : s.copyOf src src = s.rows.allocate.1 := by
  rw [copyOf, List.idxOf_cons_self]
  rfl

theorem copyOf_inj {row other : Row} (hrow : row ∈ src :: s.framesOf src)
    (h : s.copyOf src row = s.copyOf src other) : row = other := by
  have hindex : (src :: s.framesOf src).idxOf row = (src :: s.framesOf src).idxOf other :=
    Nat.add_left_cancel (congrArg Row.id h)
  exact (List.idxOf_inj hrow).mp hindex

theorem nodup_track_frames (hs : s.WellFormed) (src : Row) : (src :: s.framesOf src).Nodup :=
  List.nodup_cons.mpr ⟨hs.membership.not_mem_framesOf src, hs.membership.nodup src⟩

/-- The copies are numbered in the order of the frames. -/
theorem copyOf_frame (hs : s.WellFormed) {done rest : List Row} {frame : Row}
    (hframes : s.framesOf src = done ++ frame :: rest) :
    s.copyOf src frame = ⟨s.rows.next + (done.length + 1)⟩ := by
  have hnodup := nodup_track_frames hs src
  rw [hframes, ← List.cons_append] at hnodup
  have hnot : frame ∉ src :: done := fun hmem =>
    List.disjoint_of_nodup_append hnodup hmem List.mem_cons_self
  rw [copyOf, hframes, ← List.cons_append, List.idxOf_append_of_notMem hnot, List.idxOf_cons_self]
  rfl

end CopyOf

/-- What the store holds when the track and the first of its frames are copied. -/
structure CopiedSoFar (schema : Schema) (s : Store) (src : Row) (done : List Row) (t : Store) :
    Prop where
  config : t.config = s.config
  registry : t.registry = s.registry
  columns : t.columns.size = s.columns.size
  next : t.rows.next = s.rows.next + (done.length + 1)
  live : ∀ row, t.isLive row = true ↔
    s.isLive row = true ∨ row ∈ (src :: done).map (s.copyOf src)
  slot_track : ∀ field, t.slot field (s.copyOf src src) =
    if Schema.lists schema.track field = true then s.slot field src else none
  slot_frame : ∀ frame ∈ done, ∀ field, t.slot field (s.copyOf src frame) =
    if Schema.lists schema.frame field = true then s.slot field frame else none
  slot_other : ∀ row, row ∉ (src :: done).map (s.copyOf src) →
    ∀ field, t.slot field row = s.slot field row
  frames_track : t.framesOf (s.copyOf src src) = done.map (s.copyOf src)
  frames_other : ∀ row, row ≠ s.copyOf src src → t.framesOf row = s.framesOf row
  owner_frame : ∀ frame ∈ done, t.owners[s.copyOf src frame]? = some (s.copyOf src src)
  owner_other : ∀ row, row ∉ done.map (s.copyOf src) → t.owners[row]? = s.owners[row]?

/-- Copying the listed fields to a row that was just created. -/
theorem copyAll_to_new {t : Store} {refs : List FieldRef} {row : Row}
    (hlive : t.isLive row = true) (hnew : t.isLive t.rows.allocate.1 = false)
    (hempty : ∀ field, t.slot field t.rows.allocate.1 = none)
    (hf : ∀ r ∈ refs, r.field.index < t.columns.size) :
    ∃ u, Schema.copyAll refs row t.rows.allocate.1 (Change.issue.apply t) = .ok () u ∧
      SameTables (Change.issue.apply t) u ∧
      ∀ field other, u.slot field other =
        if other = t.rows.allocate.1 then
          if Schema.lists refs field = true then t.slot field row else none
        else t.slot field other := by
  have hne : row ≠ t.rows.allocate.1 := by
    rintro rfl
    simp [hlive] at hnew
  have hrow : (Change.issue.apply t).isLive row = true := by simp [isLive_apply, hlive]
  have hdst : (Change.issue.apply t).isLive t.rows.allocate.1 = true := by simp [isLive_apply]
  obtain ⟨u, hcopy, htables, hslot⟩ := copyAll_of_live hne hrow hdst hf
  refine ⟨u, hcopy, htables, fun field other => ?_⟩
  have hsame (r : Row) : (Change.issue.apply t).slot field r = t.slot field r := rfl
  rw [hslot, hsame, hsame, hsame, hempty, Option.or_none]
  by_cases hother : other = t.rows.allocate.1
  · subst hother
    simp [hempty]
  · simp [hother]

section Copying
variable {schema : Schema} {s t : Store} {src frame : Row} {done rest : List Row}

theorem copiedSoFar_track (hs : s.WellFormed) (hlive : s.isLive src = true)
    (hf : ∀ r ∈ schema.track, r.field.index < s.columns.size) :
    ∃ t, schema.copyTrackFields src s.rows.allocate.1 (Change.issue.apply s) = .ok () t ∧
      CopiedSoFar schema s src [] t := by
  have hnew := hs.next_not_live
  obtain ⟨t, hcopy, htables, hslot⟩ := copyAll_to_new hlive hnew (hs.slot_of_not_live hnew) hf
  refine ⟨t, hcopy, ?_⟩
  constructor
  case config => exact htables.config
  case registry => exact htables.registry
  case columns => exact htables.columns
  case next => rw [htables.rows]; rfl
  case live =>
    intro row
    rw [htables.isLive, isLive_apply, List.map_singleton, List.mem_singleton, copyOf_self,
      Bool.or_eq_true, decide_eq_true_eq]
  case slot_track =>
    intro field
    rw [copyOf_self, hslot, if_pos rfl]
  case slot_frame => exact fun _ hmem => nomatch hmem
  case slot_other =>
    intro row hrow field
    rw [List.map_singleton, List.mem_singleton, copyOf_self] at hrow
    rw [hslot, if_neg hrow]
  case frames_track =>
    rw [htables.framesOf, copyOf_self]
    exact hs.framesOf_of_not_live hnew
  case frames_other => exact fun row _ => htables.framesOf row
  case owner_frame => exact fun _ hmem => nomatch hmem
  case owner_other => exact fun row _ => by rw [htables.owners]; rfl

theorem CopiedSoFar.next_row (h : CopiedSoFar schema s src done t) (hs : s.WellFormed)
    (hframes : s.framesOf src = done ++ frame :: rest) :
    t.rows.allocate.1 = s.copyOf src frame := by
  rw [copyOf_frame hs hframes, ← h.next]
  rfl

/-- The copy of a frame that is not copied yet is none of the copies. -/
theorem copyOf_not_mem (hs : s.WellFormed) (hframes : s.framesOf src = done ++ frame :: rest) :
    s.copyOf src frame ∉ (src :: done).map (s.copyOf src) := by
  have hnodup := nodup_track_frames hs src
  rw [hframes, ← List.cons_append] at hnodup
  intro hmem
  obtain ⟨row, hrow, heq⟩ := List.mem_map.mp hmem
  have hlisted : row ∈ src :: s.framesOf src := by
    rw [hframes, ← List.cons_append]
    exact List.mem_append_left _ hrow
  cases copyOf_inj hlisted heq
  exact List.disjoint_of_nodup_append hnodup hrow List.mem_cons_self

namespace CopiedSoFar

/-- The next row has no part in anything yet. -/
theorem next_unused (h : CopiedSoFar schema s src done t) (hs : s.WellFormed)
    (hframes : s.framesOf src = done ++ frame :: rest) :
    t.isLive (s.copyOf src frame) = false ∧ (∀ field, t.slot field (s.copyOf src frame) = none) ∧
      t.framesOf (s.copyOf src frame) = [] ∧ t.owners[s.copyOf src frame]? = none := by
  have hold : s.isLive (s.copyOf src frame) = false := hs.not_live_of_next_le (next_le_copyOf frame)
  have hnot := copyOf_not_mem hs hframes
  have htrack : s.copyOf src frame ≠ s.copyOf src src := by
    intro heq
    exact hnot (heq ▸ List.mem_cons_self)
  have hdone : s.copyOf src frame ∉ done.map (s.copyOf src) :=
    fun hmem => hnot (List.mem_cons_of_mem _ hmem)
  refine ⟨?_, fun field => ?_, ?_, ?_⟩
  · rw [Bool.eq_false_iff, ne_eq, h.live, hold]
    exact fun hor => hor.elim (fun hfalse => nomatch hfalse) hnot
  · rw [h.slot_other _ hnot]
    exact hs.slot_of_not_live hold field
  · rw [h.frames_other _ htrack]
    exact hs.framesOf_of_not_live hold
  · rw [h.owner_other _ hdone]
    exact hs.owner_of_not_live hold

/-- A row that was live from the start is none of the copies, and holds what it held. -/
theorem slot_source (h : CopiedSoFar schema s src done t) (hs : s.WellFormed) {row : Row}
    (hlive : s.isLive row = true) (field : FieldId) : t.slot field row = s.slot field row := by
  refine h.slot_other row (fun hmem => ?_) field
  obtain ⟨source, -, rfl⟩ := List.mem_map.mp hmem
  simp [hs.not_live_of_next_le (next_le_copyOf source)] at hlive

/-- The copy of the track has no owner. -/
theorem owner_track (h : CopiedSoFar schema s src done t) (hs : s.WellFormed)
    (hsrc : src ∉ done) : t.owners[s.copyOf src src]? = none := by
  have hdone : s.copyOf src src ∉ done.map (s.copyOf src) := by
    intro hmem
    obtain ⟨frame, hframe, heq⟩ := List.mem_map.mp hmem
    cases copyOf_inj List.mem_cons_self heq.symm
    exact hsrc hframe
  rw [h.owner_other _ hdone]
  exact hs.owner_of_not_live (hs.not_live_of_next_le (next_le_copyOf src))

theorem track_not_done (hs : s.WellFormed) (hframes : s.framesOf src = done ++ frame :: rest) :
    src ∉ done := by
  have hnodup := nodup_track_frames hs src
  rw [hframes, List.nodup_cons] at hnodup
  exact fun hdone => hnodup.1 (List.mem_append_left _ hdone)

theorem next_ne_track (h : CopiedSoFar schema s src done t) (hs : s.WellFormed)
    (hframes : s.framesOf src = done ++ frame :: rest) :
    s.copyOf src src ≠ t.rows.allocate.1 := by
  intro heq
  rw [h.next_row hs hframes] at heq
  exact copyOf_not_mem hs hframes (heq ▸ List.mem_cons_self)

/-- The new row can join the copy of the track, whatever was copied to it. -/
theorem next_joins (h : CopiedSoFar schema s src done t) (hs : s.WellFormed)
    (hframes : s.framesOf src = done ++ frame :: rest) {u : Store}
    (htables : SameTables (Change.issue.apply t) u) :
    addFrame (s.copyOf src src) t.rows.allocate.1 u =
      .ok () (u.join (s.copyOf src src) t.rows.allocate.1) := by
  obtain ⟨-, -, hnone, hfree⟩ := h.next_unused hs hframes
  rw [← h.next_row hs hframes] at hnone hfree
  have howners : u.owners = t.owners := htables.owners
  have htrack : t.isLive (s.copyOf src src) = true := (h.live _).mpr (.inr List.mem_cons_self)
  have hjoin : u.mayJoin (s.copyOf src src) t.rows.allocate.1 = .ok true := by
    refine (mayJoin_eq_true ..).mpr ⟨?_, ?_, h.next_ne_track hs hframes, ?_, ?_, ?_⟩
    · rw [htables.isLive, isLive_apply]
      simp [htrack]
    · rw [htables.isLive, isLive_apply]
      simp
    · rw [howners]
      exact hfree
    · rw [htables.framesOf]
      exact hnone
    · rw [howners]
      exact h.owner_track hs (track_not_done hs hframes)
  rw [addFrame_apply, hjoin]

/-- The new row has joined with the copied fields. -/
theorem join_next (h : CopiedSoFar schema s src done t) (hs : s.WellFormed)
    (hframes : s.framesOf src = done ++ frame :: rest) {u : Store}
    (htables : SameTables (Change.issue.apply t) u)
    (hslot : ∀ field row, u.slot field row =
      if row = t.rows.allocate.1 then
        if Schema.lists schema.frame field = true then t.slot field frame else none
      else t.slot field row) :
    CopiedSoFar schema s src (done ++ [frame])
      (u.join (s.copyOf src src) t.rows.allocate.1) := by
  have hmem : frame ∈ s.framesOf src := by simp [hframes]
  have hnew := h.next_row hs hframes
  have hne := h.next_ne_track hs hframes
  have hnot := copyOf_not_mem hs hframes
  rw [← hnew] at hnot
  have howners : u.owners = t.owners := htables.owners
  have huframes (row : Row) : u.framesOf row = t.framesOf row := htables.framesOf row
  -- Joining writes no slot and changes no row.
  have hvslot (field : FieldId) (row : Row) :
      (u.join (s.copyOf src src) t.rows.allocate.1).slot field row = u.slot field row := rfl
  have hvlive (row : Row) :
      (u.join (s.copyOf src src) t.rows.allocate.1).isLive row = true ↔
        t.isLive row = true ∨ row = t.rows.allocate.1 := by
    show u.isLive row = true ↔ _
    rw [htables.isLive, isLive_apply, Bool.or_eq_true, decide_eq_true_eq]
  have hlast (row : Row) : row ∈ (src :: (done ++ [frame])).map (s.copyOf src) ↔
      row ∈ (src :: done).map (s.copyOf src) ∨ row = t.rows.allocate.1 := by
    rw [← List.cons_append, List.map_append, List.mem_append, List.map_singleton,
      List.mem_singleton, hnew]
  constructor
  case config => exact htables.config.trans h.config
  case registry => exact htables.registry.trans h.registry
  case columns => exact htables.columns.trans h.columns
  case next =>
    have hrows : u.rows.next = t.rows.next + 1 := congrArg RowAllocator.next htables.rows
    rw [List.length_append, List.length_singleton, ← Nat.add_assoc, ← h.next]
    exact hrows
  case live =>
    intro row
    rw [hlast, ← or_assoc, ← h.live, hvlive]
  case slot_track =>
    intro field
    rw [hvslot, hslot, if_neg hne, h.slot_track]
  case slot_frame =>
    intro other hother field
    rw [hvslot, hslot]
    rcases List.mem_append.mp hother with hdone | hframe
    · have hold : s.copyOf src other ≠ t.rows.allocate.1 := by
        intro heq
        exact hnot (heq ▸ List.mem_cons_of_mem _ (List.mem_map_of_mem hdone))
      rw [if_neg hold, h.slot_frame other hdone]
    · cases List.mem_singleton.mp hframe
      rw [if_pos hnew.symm, h.slot_source hs (hs.membership.frame_live hmem)]
  case slot_other =>
    intro row hrow field
    rw [hlast, not_or] at hrow
    rw [hvslot, hslot, if_neg hrow.2, h.slot_other row hrow.1]
  case frames_track =>
    rw [framesOf_join, if_pos rfl, huframes, h.frames_track, List.map_append, List.map_singleton,
      hnew]
  case frames_other =>
    intro row hrow
    rw [framesOf_join, if_neg hrow, huframes, h.frames_other row hrow]
  case owner_frame =>
    intro other hother
    rw [owners_join, howners]
    rcases List.mem_append.mp hother with hdone | hframe
    · rw [h.owner_frame other hdone]
      split <;> rfl
    · cases List.mem_singleton.mp hframe
      rw [if_pos hnew.symm]
  case owner_other =>
    intro row hrow
    rw [List.map_append, List.mem_append, not_or, List.map_singleton, List.mem_singleton,
      ← hnew] at hrow
    rw [owners_join, if_neg hrow.2, howners, h.owner_other row hrow.1]

/-- One more frame: a new row, the copied fields, and then the new row joins the track. -/
theorem step (h : CopiedSoFar schema s src done t) (hs : s.WellFormed)
    (hframes : s.framesOf src = done ++ frame :: rest)
    (hf : ∀ r ∈ schema.frame, r.field.index < s.columns.size) :
    ∃ u, schema.copyFrameFields frame t.rows.allocate.1 (Change.issue.apply t) = .ok () u ∧
      addFrame (s.copyOf src src) t.rows.allocate.1 u =
        .ok () (u.join (s.copyOf src src) t.rows.allocate.1) ∧
      CopiedSoFar schema s src (done ++ [frame])
        (u.join (s.copyOf src src) t.rows.allocate.1) := by
  have hmem : frame ∈ s.framesOf src := by simp [hframes]
  have hlive : t.isLive frame = true := (h.live frame).mpr (.inl (hs.membership.frame_live hmem))
  obtain ⟨hdead, hempty, -, -⟩ := h.next_unused hs hframes
  rw [← h.next_row hs hframes] at hdead hempty
  obtain ⟨u, hcopy, htables, hslot⟩ := copyAll_to_new hlive hdead hempty (h.columns ▸ hf)
  exact ⟨u, hcopy, h.next_joins hs hframes htables, h.join_next hs hframes htables hslot⟩

/-- All the frames that are left. -/
theorem frames (h : CopiedSoFar schema s src done t) (hs : s.WellFormed)
    (hframes : s.framesOf src = done ++ rest)
    (hf : ∀ r ∈ schema.frame, r.field.index < s.columns.size) :
    ∃ u, schema.cloneFrames (s.copyOf src src) rest t = .ok () u ∧
      CopiedSoFar schema s src (s.framesOf src) u := by
  induction rest generalizing done t with
  | nil =>
    rw [List.append_nil] at hframes
    exact ⟨t, rfl, hframes ▸ h⟩
  | cons frame rest ih =>
    obtain ⟨u, hcopy, hjoin, hnext⟩ := h.step hs hframes hf
    obtain ⟨v, hrest, hall⟩ := ih hnext (by rw [hframes, List.append_assoc]; rfl)
    refine ⟨v, ?_, hall⟩
    simp only [Schema.cloneFrames, bind, EStateM.bind, createRow_eq, hcopy, hjoin, hrest]

end CopiedSoFar

end Copying

end Store
end TrackStore
