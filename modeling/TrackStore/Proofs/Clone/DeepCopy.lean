import TrackStore.Proofs.Clone.Progress

/-! # The copy of a track

A copy of a track stands beside it: new rows with the declared values of the track and of its
frames, in the same order, and nothing that was there before is changed. So a copy lacks what the
track lacks.
-/
namespace TrackStore

namespace Store

/-- A deep copy of a track, as far as a schema declares its fields; `copy` says which row became the
copy of which. -/
structure DeepCopy (schema : Schema) (s : Store) (src : Row) (copy : Row → Row) (t : Store) :
    Prop where
  fresh : ∀ row ∈ src :: s.framesOf src,
    s.rows.wasIssued (copy row) = false ∧ t.isLive (copy row) = true
  distinct : ((src :: s.framesOf src).map copy).Nodup
  frames : t.framesAt (copy src) = .ok ((s.framesOf src).map copy)
  owner : t.owningTrack (copy src) = .ok none
  frame_owner : ∀ frame ∈ s.framesOf src, t.owningTrack (copy frame) = .ok (some (copy src))
  frame_frames : ∀ frame ∈ s.framesOf src, t.framesAt (copy frame) = .ok []
  slot : ∀ field, t.slot field (copy src) =
    if Schema.lists schema.track field = true then s.slot field src else none
  frame_slot : ∀ frame ∈ s.framesOf src, ∀ field, t.slot field (copy frame) =
    if Schema.lists schema.frame field = true then s.slot field frame else none
  others : ∀ row, s.rows.wasIssued row = true →
    t.isLive row = s.isLive row ∧ (∀ field, t.slot field row = s.slot field row) ∧
      t.owners[row]? = s.owners[row]? ∧ t.framesOf row = s.framesOf row
  registry : t.registry = s.registry
  config : t.config = s.config
  missing : ∃ missing, schema.missingFields s src = .ok missing ∧
    schema.missingFields t (copy src) = .ok (missing.map fun m => { m with row := copy m.row })
  complete : ∃ complete, schema.isComplete s src = .ok complete ∧
    schema.isComplete t (copy src) = .ok complete

theorem absent_congr {s t : Store} {refs : List FieldRef} {row other : Row}
    (h : ∀ field, t.slot field other =
      if Schema.lists refs field = true then s.slot field row else none) :
    Schema.absent refs t other = Schema.absent refs s row := by
  refine List.filter_congr fun r hr => ?_
  have hlists : Schema.lists refs r.field = true := List.any_eq_true.mpr ⟨r, hr, beq_self_eq_true _⟩
  rw [h, if_pos hlists]

section Copied
variable {schema : Schema} {s t : Store} {src : Row}

theorem CopiedSoFar.missing_eq (h : CopiedSoFar schema s src (s.framesOf src) t) :
    schema.missing t (s.copyOf src src) =
      (schema.missing s src).map fun m => { m with row := s.copyOf src m.row } := by
  have hframe (frame : Row) (hmem : frame ∈ s.framesOf src) :
      Schema.absent schema.frame t (s.copyOf src frame) = Schema.absent schema.frame s frame :=
    absent_congr (h.slot_frame frame hmem)
  have hframes :
      ((s.framesOf src).map (s.copyOf src)).flatMap (fun frame =>
        (Schema.absent schema.frame t frame).map (MissingField.ofRef .frame frame)) =
      ((s.framesOf src).flatMap fun frame =>
        (Schema.absent schema.frame s frame).map (MissingField.ofRef .frame frame)).map
          fun m => { m with row := s.copyOf src m.row } := by
    rw [List.flatMap_map, List.map_flatMap]
    refine List.flatMap_congr fun frame hmem => ?_
    rw [hframe frame hmem, List.map_map]
    rfl
  rw [Schema.missing, Schema.missing, absent_congr h.slot_track, h.frames_track, hframes,
    List.map_append, List.map_map]
  rfl

theorem isComplete_of_missingFields {missing : List MissingField} {track : Row}
    (h : schema.missingFields s track = .ok missing) :
    schema.isComplete s track = .ok missing.isEmpty := by
  simp only [Schema.isComplete, h, bind, Except.bind, pure, Except.pure]

theorem CopiedSoFar.deepCopy (h : CopiedSoFar schema s src (s.framesOf src) t)
    (hs : s.WellFormed) (hlive : s.isLive src = true)
    (hf : ∀ r ∈ schema.track ++ schema.frame, r.field.index < s.columns.size) :
    DeepCopy schema s src (s.copyOf src) t := by
  have hnodup := nodup_track_frames hs src
  have hcopy (row : Row) (hmem : row ∈ src :: s.framesOf src) :
      t.isLive (s.copyOf src row) = true :=
    (h.live _).mpr (.inr (List.mem_map_of_mem hmem))
  have htrack := hcopy src List.mem_cons_self
  have hframe (frame : Row) (hmem : frame ∈ s.framesOf src) :=
    hcopy frame (List.mem_cons_of_mem _ hmem)
  have hdead (row : Row) : s.isLive (s.copyOf src row) = false :=
    hs.not_live_of_next_le (next_le_copyOf row)
  have hmissing : ∃ missing, schema.missingFields s src = .ok missing ∧
      schema.missingFields t (s.copyOf src src) =
        .ok (missing.map fun m => { m with row := s.copyOf src m.row }) := by
    refine ⟨_, schema.missingFields_of_live hlive (fun _ hm => hs.membership.frame_live hm) hf, ?_⟩
    rw [schema.missingFields_of_live htrack ?_ (h.columns ▸ hf), h.missing_eq]
    rw [h.frames_track]
    intro copied hmem
    obtain ⟨frame, hframe', rfl⟩ := List.mem_map.mp hmem
    exact hframe frame hframe'
  -- An issued row has a lower number than all the copies.
  have hold (row : Row) (hissued : s.rows.wasIssued row = true) (rows : List Row) :
      row ∉ rows.map (s.copyOf src) := by
    intro hmem
    obtain ⟨source, -, rfl⟩ := List.mem_map.mp hmem
    have hle : s.rows.next ≤ (s.copyOf src source).id := next_le_copyOf source
    simp only [RowAllocator.wasIssued, Bool.and_eq_true, decide_eq_true_eq] at hissued
    omega
  constructor
  case fresh =>
    intro row hmem
    have hle : s.rows.next ≤ (s.copyOf src row).id := next_le_copyOf row
    refine ⟨?_, hcopy row hmem⟩
    rw [RowAllocator.wasIssued, Bool.and_eq_false_iff, decide_eq_false_iff_not,
      decide_eq_false_iff_not]
    omega
  case distinct => exact hnodup.map_on fun _ hmem _ _ heq => copyOf_inj hmem heq
  case frames => exact (framesAt_eq_ok ..).mpr ⟨htrack, h.frames_track⟩
  case owner =>
    exact (owningTrack_eq_ok ..).mpr ⟨htrack, h.owner_track hs (List.nodup_cons.mp hnodup).1⟩
  case frame_owner =>
    intro frame hmem
    exact (owningTrack_eq_ok ..).mpr ⟨hframe frame hmem, h.owner_frame frame hmem⟩
  case frame_frames =>
    intro frame hmem
    have hne : s.copyOf src frame ≠ s.copyOf src src := by
      intro heq
      cases copyOf_inj (List.mem_cons_of_mem _ hmem) heq
      exact (List.nodup_cons.mp hnodup).1 hmem
    refine (framesAt_eq_ok ..).mpr ⟨hframe frame hmem, ?_⟩
    rw [h.frames_other _ hne]
    exact hs.framesOf_of_not_live (hdead frame)
  case slot => exact h.slot_track
  case frame_slot => exact h.slot_frame
  case others =>
    intro row hissued
    have hnot := hold row hissued (src :: s.framesOf src)
    have hne : row ≠ s.copyOf src src := fun heq => hnot (heq ▸ List.mem_cons_self)
    refine ⟨?_, h.slot_other row hnot, h.owner_other row (hold row hissued _),
      h.frames_other row hne⟩
    rw [Bool.eq_iff_iff, h.live, or_iff_left hnot]
  case registry => exact h.registry
  case config => exact h.config
  case missing => exact hmissing
  case complete =>
    obtain ⟨missing, hsource, hcopied⟩ := hmissing
    refine ⟨_, isComplete_of_missingFields hsource, ?_⟩
    rw [isComplete_of_missingFields hcopied, List.isEmpty_map]

end Copied

/-- Copying a live track under a schema whose fields are registered always succeeds, gives a deep
copy and leaves every cursor where it is. -/
theorem cloneTrack_deepCopy {w : Workspace} (hs : w.store.Reachable) {schema : Schema}
    (hf : ∀ r ∈ schema.track ++ schema.frame, w.store.registry.contains r.field = true) {src : Row}
    (hlive : w.store.isLive src = true) :
    ∃ copy t, Workspace.onStore (schema.cloneTrack src) w = .ok (copy src) { w with store := t } ∧
      DeepCopy schema w.store src copy t := by
  have hw := hs.wellFormed
  have hindex (r : FieldRef) (hr : r ∈ schema.track ++ schema.frame) :
      r.field.index < w.store.columns.size := hw.index_lt (hf r hr)
  have hfields := List.forall_mem_append.mp hindex
  obtain ⟨t, hcopy, htrack⟩ := copiedSoFar_track hw hlive hfields.1
  have hsplit : w.store.framesOf src = [] ++ w.store.framesOf src := rfl
  obtain ⟨u, hframes, hall⟩ := htrack.frames hw hsplit hfields.2
  refine ⟨_, u, ?_, hall.deepCopy hw hlive hindex⟩
  have hlist : w.store.framesAt src = .ok (w.store.framesOf src) :=
    (framesAt_eq_ok ..).mpr ⟨hlive, rfl⟩
  rw [copyOf_self] at hframes
  have hcreate : createRow w.store = .ok w.store.rows.allocate.1 (Change.issue.apply w.store) := rfl
  have hrun : schema.cloneTrack src w.store = .ok w.store.rows.allocate.1 u := by
    simp only [Schema.cloneTrack, bind, EStateM.bind, query_apply, hlist, hcreate, hcopy, hframes,
      pure, EStateM.pure]
  rw [Workspace.onStore, hrun, copyOf_self]

theorem cloneTrack_deepCopy_pair :
    let s := (withConfig { initialRowCapacity := 0 }).run
      [.createRow, .createRow, .createRow, .register { name := "closed", type := .bool },
        .register { name := "seen", type := .bool }, .register { name := "other", type := .bool },
        .addFrame ⟨1⟩ ⟨2⟩, .addFrame ⟨1⟩ ⟨3⟩, .setRaw ⟨0⟩ ⟨1⟩ [1], .setRaw ⟨1⟩ ⟨3⟩ [0],
        .setRaw ⟨2⟩ ⟨1⟩ [1]]
    let schema : Schema :=
      { name := "pair", host := ⟨0⟩, track := [⟨⟨0⟩, "closed", .bool⟩],
        frame := [⟨⟨1⟩, "seen", .bool⟩] }
    let w : Workspace := { store := s, cursors := ⟨#[some ⟨2⟩]⟩ }
    (∀ r ∈ schema.track ++ schema.frame, s.registry.contains r.field = true) ∧
      s.isLive ⟨1⟩ = true ∧ s.framesOf ⟨1⟩ = [⟨2⟩, ⟨3⟩] ∧
      ∃ copy t, Workspace.onStore (schema.cloneTrack ⟨1⟩) w =
          .ok (copy ⟨1⟩) { w with store := t } ∧
        DeepCopy schema s ⟨1⟩ copy t := by
  intro s schema w
  have hf : ∀ r ∈ schema.track ++ schema.frame, s.registry.contains r.field = true := by decide
  have hlive : s.isLive ⟨1⟩ = true := by decide
  exact ⟨hf, hlive, by decide, cloneTrack_deepCopy (w := w) ⟨_, _, rfl⟩ hf hlive⟩

end Store
end TrackStore
