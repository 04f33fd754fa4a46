import TrackStore.Proofs.Counts.Rows
import TrackStore.Proofs.Counts.Slots

/-! # A recount of a store

Each of the numbers a store reports is taken from a table of its own: a counter beside the bits, the
next number, the sizes of the columns, the lists of frames. What the reading calls answer, row by
row, adds up to the same numbers after every run.
-/
namespace TrackStore.Store

/-- What is reported is what the reading calls show, for a store with `created` rows made and
`deleted` live rows deleted so far. -/
structure Tallied (s : Store) (created deleted : Nat) : Prop where
  liveRows : s.stats.liveRows = s.liveRows.length
  live_le_issued : s.rows.liveCount ≤ s.rows.issued
  deletedRows : s.stats.deletedRows = deleted
  created : s.stats.liveRows + s.stats.deletedRows = created
  fields : s.stats.fields = s.fieldNames.length
  slots : ∃ fields, s.liveRows.mapM s.fieldsAt = .ok fields ∧
    s.stats.slots = (fields.map List.length).sum
  frames : ∃ frames owners, s.liveRows.mapM s.framesAt = .ok frames ∧
    s.liveRows.mapM s.owningTrack = .ok owners ∧
    s.stats.tracksWithFrames = frames.countP (· ≠ []) ∧
    (frames.map List.length).sum = owners.countP Option.isSome

theorem mapM_eq_ok {α β : Type} {f : α → Except Error β} {g : α → β} {xs : List α}
    (h : ∀ x ∈ xs, f x = .ok (g x)) : xs.mapM f = .ok (xs.map g) := by
  induction xs with
  | nil => rfl
  | cons x xs ih =>
    have hx := h x List.mem_cons_self
    have hxs := ih fun y hy => h y (List.mem_cons_of_mem x hy)
    rw [List.mapM_cons, hx, hxs]
    rfl

theorem mapM_liveRows {s : Store} {β : Type} {f : Row → Except Error β} {g : Row → β}
    (h : ∀ row, s.isLive row = true → f row = .ok (g row)) :
    s.liveRows.mapM f = .ok (s.liveRows.map g) :=
  mapM_eq_ok fun row hrow => h row ((s.rows.mem_liveRows row).mp hrow)

section Frames
variable {s : Store}

/-- A list that was left empty is kept at its track and counts for nothing. -/
theorem tracksWithFrames_eq (hs : s.Membership) :
    s.stats.tracksWithFrames = s.liveRows.countP (s.framesOf · ≠ []) := by
  have hkeys : (s.frames.toList.map Prod.fst).Nodup := by
    rw [Std.ExtTreeMap.map_fst_toList_eq_keys]
    exact Std.ExtTreeMap.nodup_keys
  have hnodup : ((s.frames.toList.filter (·.2 ≠ [])).map Prod.fst).Nodup :=
    hkeys.sublist (List.filter_sublist.map Prod.fst)
  have hperm : ((s.frames.toList.filter (·.2 ≠ [])).map Prod.fst).Perm
      (s.liveRows.filter (s.framesOf · ≠ [])) := by
    refine (List.perm_ext_iff_of_nodup hnodup (s.nodup_liveRows.filter _)).mpr fun track => ?_
    simp only [List.mem_map, List.mem_filter, Prod.exists, exists_and_right, exists_eq_right,
      Std.ExtTreeMap.mem_toList_iff_getElem?_eq_some, framesOf, liveRows,
      Std.ExtTreeMap.getD_eq_getD_getElem?, RowAllocator.mem_liveRows]
    cases htrack : s.frames[track]? with
    | none => simp
    | some frames =>
      have hlive : s.rows.isLive track = true :=
        hs.keys_live track (Std.ExtTreeMap.mem_iff_isSome_getElem?.mpr (by rw [htrack]; rfl))
      simp [hlive]
  rw [List.countP_eq_length_filter, ← hperm.length_eq, List.length_map]
  rfl

/-- The frames of the live rows, one track after the other, are the live rows with a track. -/
theorem flatMap_framesOf_perm (hs : s.Membership) :
    (s.liveRows.flatMap s.framesOf).Perm (s.liveRows.filter (s.owners[·]?.isSome)) := by
  have hnodup : (s.liveRows.flatMap s.framesOf).Nodup := by
    refine List.nodup_flatMap.mpr ⟨fun track _ => hs.nodup track, ?_⟩
    refine s.nodup_liveRows.imp fun hne frame hframe hframe' => ?_
    exact hne (hs.track_unique hframe hframe')
  refine (List.perm_ext_iff_of_nodup hnodup (s.nodup_liveRows.filter _)).mpr fun frame => ?_
  rw [List.mem_flatMap, List.mem_filter, Option.isSome_iff_exists]
  constructor
  · rintro ⟨track, -, hframe⟩
    have howner := (hs.owner_iff track frame).mpr hframe
    exact ⟨(s.rows.mem_liveRows frame).mpr (hs.frame_live hframe), track, howner⟩
  · rintro ⟨-, track, howner⟩
    have htrack := (hs.owner_live track frame howner).2
    exact ⟨track, (s.rows.mem_liveRows track).mpr htrack, (hs.owner_iff track frame).mp howner⟩

theorem sum_length_framesOf (hs : s.Membership) :
    (s.liveRows.map fun track => (s.framesOf track).length).sum =
      s.liveRows.countP (s.owners[·]?.isSome) := by
  rw [← List.length_flatMap, (flatMap_framesOf_perm hs).length_eq, List.countP_eq_length_filter]

end Frames

/-- Whatever the run, every number the store reports is what counting again would give. -/
theorem stats_recount (config : Config) (es : List Edit) :
    ((withConfig config).run es).Tallied (es.countP Edit.creates)
      ((withConfig config).deletions es) := by
  have hnew := wellFormed_withConfig config
  have hs : ((withConfig config).run es).WellFormed := hnew.run es
  have hcount : ((withConfig config).run es).stats.liveRows =
      ((withConfig config).run es).liveRows.length := by
    rw [length_liveRows]
    exact counted_run (Bitmap.counted_withCapacity _) es
  obtain ⟨hissued, hlive⟩ := rows_run hnew es
  have hissued₀ : (withConfig config).rows.issued = 0 := rfl
  have hlive₀ : (withConfig config).liveRows.length = 0 := by
    rw [length_liveRows]
    exact (Bitmap.counted_withCapacity _).symm
  generalize (withConfig config).run es = s at *
  have hdeleted : s.stats.deletedRows = s.rows.issued - s.stats.liveRows := rfl
  have hle : s.rows.liveCount ≤ s.rows.issued := by
    have hsame : s.rows.liveCount = s.stats.liveRows := rfl
    omega
  refine ⟨hcount, hle, by omega, by omega, ?_, ?_, ?_⟩
  · simp [stats, fieldNames, Registry.names, Registry.size]
  · refine ⟨_, mapM_liveRows fun row hrow => fieldsAt_of_live hrow, ?_⟩
    rw [List.map_map, slots_eq_sum hs]
    rfl
  · refine ⟨_, _, mapM_liveRows fun row hrow => (framesAt_eq_ok ..).mpr ⟨hrow, rfl⟩,
      mapM_liveRows fun row hrow => (owningTrack_eq_ok ..).mpr ⟨hrow, rfl⟩, ?_, ?_⟩
    · rw [List.countP_map, tracksWithFrames_eq hs.membership]
      rfl
    · rw [List.map_map, List.countP_map]
      exact sum_length_framesOf hs.membership

end TrackStore.Store
