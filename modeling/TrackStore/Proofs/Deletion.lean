import TrackStore.Proofs.WellFormed
import TrackStore.Store.Handles

/-! # Deleted rows

A row that was issued and is not live stays so: no call issues its number again. In a well-formed
store such a row can neither be seen nor worked on, so a deletion is for good.
-/
namespace TrackStore.Store

/-- A row that was issued once and is not live any more. -/
structure Retired (s : Store) (row : Row) : Prop where
  issued : s.rows.wasIssued row = true
  not_live : s.isLive row = false

/-- Nothing that can be asked of the store shows the row. -/
structure Unseen (s : Store) (row : Row) : Prop where
  not_live : s.isLive row = false
  not_listed : row ∉ s.liveRows
  not_created : ∀ t, createRow s ≠ .ok row t
  not_frame : ∀ track frames, s.framesAt track = .ok frames → row ∉ frames
  not_owner : ∀ frame, s.owningTrack frame ≠ .ok (some row)
  not_found : ∀ (t : FieldType) field (v : t.Value), s.lookup t field v ≠ .ok (some row)
  /-- Whatever the order in which the slots of a field are looked at. -/
  not_scanned : ∀ (t : FieldType) field (v : t.Value) column slots, s.column field = .ok column →
    slots.Perm column.toList → scan t v none slots ≠ .ok (some row)
  no_slot : ∀ field column, s.column field = .ok column → row ∉ column

/-- Every operation on the row is refused as stale and leaves the store as it is. -/
structure Refuses (s : Store) (row : Row) : Prop where
  checkRow : s.checkRow row = .error (.staleRow row)
  getRaw : ∀ field, s.getRaw field row = .error (.staleRow row)
  hasValue : ∀ field, s.hasValue field row = .error (.staleRow row)
  fieldsAt : s.fieldsAt row = .error (.staleRow row)
  framesAt : s.framesAt row = .error (.staleRow row)
  owningTrack : s.owningTrack row = .error (.staleRow row)
  view : s.view row = .error (.staleRow row)
  viewMut : ∀ {α : Type} (work : RowViewMut → StoreM α),
    (do work (← viewMut row)) s = .error (.staleRow row) s
  setRaw : ∀ field bytes, setRaw field row bytes s = .error (.staleRow row) s
  removeAt : ∀ field, removeAt field row s = .error (.staleRow row) s
  copyFrom : ∀ field dst, copyValue field row dst s = .error (.staleRow row) s
  copyTo : ∀ field src, s.isLive src = true → copyValue field src row s = .error (.staleRow row) s
  detachFrame : detachFrame row s = .error (.staleRow row) s
  addFrameTo : ∀ frame, addFrame row frame s = .error (.staleRow row) s
  addFrameAs : ∀ track, s.isLive track = true → addFrame track row s = .error (.staleRow row) s
  getValue : ∀ t field d, s.describeField field = .ok d → d.type = t →
    s.getValue t field row = .error (.staleRow row)
  setValue : ∀ t field v d, s.describeField field = .ok d → d.type = t →
    setValue t field row v s = .error (.staleRow row) s

theorem wasIssued_apply {s : Store} (h : 0 < s.rows.next) (c : Change) (row : Row) :
    (c.apply s).rows.wasIssued row = match c with
      | .issue => s.rows.wasIssued row || decide (row = s.rows.allocate.1)
      | _ => s.rows.wasIssued row := by
  rw [rows_apply]
  cases c with
  | issue => exact RowAllocator.wasIssued_allocate s.rows h row
  | _ => rfl

theorem Retired.ne_next {s : Store} {row : Row} (h : s.Retired row) : row ≠ s.rows.allocate.1 := by
  rintro rfl
  have hissued := h.issued
  simp [RowAllocator.wasIssued, RowAllocator.allocate] at hissued

theorem Retired.apply {s : Store} (hs : s.WellFormed) {row : Row} (h : s.Retired row) (c : Change) :
    (c.apply s).Retired row where
  issued := by
    rw [wasIssued_apply hs.rows.next_pos]
    cases c <;> simp [h.issued]
  not_live := by
    rw [isLive_apply]
    cases c <;> simp [h.not_live, h.ne_next]

theorem Retired.run {s : Store} (hs : s.WellFormed) {row : Row} (h : s.Retired row)
    (es : List Edit) : (s.run es).Retired row :=
  (run_keeps (P := fun s => s.WellFormed ∧ s.Retired row)
    (fun _ c hc h => ⟨h.1.apply hc, h.2.apply h.1 c⟩) ⟨hs, h⟩ es).2

theorem retired_drop {s : Store} (hs : s.WellFormed) {row : Row} (h : s.isLive row = true) :
    (s.drop row).Retired row where
  issued := (wasIssued_apply hs.rows.next_pos (.drop row) row).trans (hs.rows.issued row h)
  not_live := (isLive_apply s (.drop row) row).trans (by simp)

/-- A scan answers a row that it was given. -/
theorem mem_of_scan {t : FieldType} {v : t.Value} {found : Option Row} {slots : List (Row × Bytes)}
    {row : Row} (h : scan t v found slots = .ok (some row)) :
    found = some row ∨ ∃ bytes, (row, bytes) ∈ slots := by
  induction slots generalizing found with
  | nil =>
    cases h
    exact .inl rfl
  | cons slot slots ih =>
    obtain ⟨r, bytes⟩ := slot
    simp only [scan] at h
    split at h
    · rcases ih h with hf | ⟨b, hb⟩
      · exact .inl hf
      · exact .inr ⟨b, List.mem_cons_of_mem _ hb⟩
    · cases hd : t.decodeSlot bytes with
      | error e => simp [hd, bind, Except.bind] at h
      | ok candidate =>
        simp only [hd, bind, Except.bind] at h
        rcases ih h with hf | ⟨b, hb⟩
        · split at hf
          · cases hf
            exact .inr ⟨bytes, List.mem_cons_self⟩
          · exact .inl hf
        · exact .inr ⟨b, List.mem_cons_of_mem _ hb⟩

theorem not_mem_column {s : Store} (hs : s.WellFormed) {row : Row} (h : s.isLive row = false)
    {field : FieldId} {column : Column} (hc : s.column field = .ok column) : row ∉ column := by
  intro hmem
  have hslot : s.slot field row ≠ none := by
    rw [slot_of_column hc, Option.ne_none_iff_isSome]
    exact Std.ExtTreeMap.mem_iff_isSome_getElem?.mp hmem
  have hlive := hs.slots field row hslot
  simp [h] at hlive

theorem Retired.not_scanned {s : Store} (hs : s.WellFormed) {row : Row} (h : s.Retired row)
    {t : FieldType} {field : FieldId} {v : t.Value} {column : Column} {slots : List (Row × Bytes)}
    (hc : s.column field = .ok column) (hslots : slots.Perm column.toList) :
    scan t v none slots ≠ .ok (some row) := by
  intro hscan
  rcases mem_of_scan hscan with hnone | ⟨bytes, hmem⟩
  · cases hnone
  · have hslot := Std.ExtTreeMap.mem_toList_iff_getElem?_eq_some.mp (hslots.mem_iff.mp hmem)
    exact not_mem_column hs h.not_live hc
      (Std.ExtTreeMap.mem_iff_isSome_getElem?.mpr (by simp [hslot]))

theorem Retired.unseen {s : Store} (hs : s.WellFormed) {row : Row} (h : s.Retired row) :
    s.Unseen row := by
  have owner_ne (frame : Row) : s.owners[frame]? ≠ some row := by
    intro ho
    have hlive := (hs.membership.owner_live row frame ho).2
    simp [h.not_live] at hlive
  constructor
  · exact h.not_live
  · rw [liveRows, RowAllocator.mem_liveRows]
    exact fun hl => absurd hl (by rw [show s.rows.isLive row = false from h.not_live]; decide)
  · intro t ht
    rw [createRow_apply] at ht
    cases ht
    exact h.ne_next rfl
  · intro track frames hf hmem
    obtain ⟨-, rfl⟩ := (framesAt_eq_ok ..).mp hf
    have hlive := hs.membership.frame_live hmem
    simp [h.not_live] at hlive
  · intro frame ho
    exact owner_ne frame ((owningTrack_eq_ok ..).mp ho).2
  · intro t field v hl
    simp only [lookup, lookupIn] at hl
    cases ht : s.checkType t field with
    | error e => simp [ht, bind, Except.bind] at hl
    | ok _ =>
      cases hc : s.column field with
      | error e => simp [ht, hc, bind, Except.bind] at hl
      | ok column =>
        simp only [ht, hc, bind, Except.bind] at hl
        exact h.not_scanned hs hc (List.reverse_perm _) hl
  · intro t field v column slots hc hslots
    exact h.not_scanned hs hc hslots
  · intro field column hc
    exact not_mem_column hs h.not_live hc

/-- Refusal needs no more than that the row is not live. -/
theorem refuses_of_not_live {s : Store} {row : Row} (h : s.isLive row = false) : s.Refuses row := by
  have hcheck := checkRow_of_not_live h
  have hcolumn (field : FieldId) : s.columnAt field row = .error (.staleRow row) := by
    simp [columnAt, hcheck, bind, Except.bind]
  have hlive {other : Row} (ho : s.isLive other = true) : s.checkRow other = .ok () :=
    (checkRow_eq_ok s other).mpr ho
  constructor
  case checkRow => exact hcheck
  case getRaw => intro field; simp [getRaw, hcolumn, bind, Except.bind]
  case hasValue => intro field; simp [hasValue, hcolumn, bind, Except.bind]
  case fieldsAt => simp [fieldsAt, hcheck, bind, Except.bind]
  case framesAt => simp [framesAt, hcheck, bind, Except.bind]
  case owningTrack => simp [owningTrack, hcheck, bind, Except.bind]
  case view => simp [view, hcheck, bind, Except.bind]
  case viewMut => intro α work; simp [viewMut, hcheck, bind, EStateM.bind]
  case setRaw => intro field bytes; rw [setRaw_apply, hcolumn]
  case removeAt => intro field; simp [removeAt_apply, hasValue, hcolumn, bind, Except.bind]
  case copyFrom => intro field dst; rw [copyValue_apply, hcheck]
  case copyTo => intro field src hsrc; rw [copyValue_apply, hlive hsrc, hcolumn]
  case detachFrame => simp [detachFrame_apply, owningTrack, hcheck, bind, Except.bind]
  case addFrameTo => intro frame; simp [addFrame_apply, mayJoin, hcheck, bind, Except.bind]
  case addFrameAs =>
    intro track ht
    simp [addFrame_apply, mayJoin, hlive ht, hcheck, bind, Except.bind]
  case getValue =>
    intro t field d hd ht
    have htype := (checkType_eq_ok ..).mpr ⟨d, hd, ht⟩
    simp [getValue, htype, getRaw, hcolumn, bind, Except.bind]
  case setValue =>
    intro t field v d hd ht
    have htype := (checkType_eq_ok ..).mpr ⟨d, hd, ht⟩
    rw [setValue_apply, htype, setRaw_apply, hcolumn]

theorem Retired.deleteRow_apply {s : Store} {row : Row} (h : s.Retired row) :
    deleteRow row s = match s.config.doubleDelete with
      | .ignore => .ok () s
      | .error => .error (.doubleDelete row) s := by
  rw [Store.deleteRow_apply, mayDelete]
  simp only [h.not_live, h.issued, Bool.false_eq_true, if_false, if_true]
  cases s.config.doubleDelete <;> rfl

theorem config_run (s : Store) (es : List Edit) : (s.run es).config = s.config :=
  run_keeps (P := fun t => t.config = s.config) (fun t c _ h => (config_apply t c).trans h) rfl es

theorem eq_drop_of_deleteRow {s t : Store} {row : Row} (hlive : s.isLive row = true)
    (h : deleteRow row s = .ok () t) : Change.Allowed s (.drop row) ∧ t = s.drop row := by
  rw [Store.deleteRow_apply] at h
  cases hm : s.mayDelete row with
  | error e => simp [hm] at h
  | ok deletes =>
    cases deletes with
    | true =>
      simp only [hm] at h
      cases h
      exact ⟨(mayDelete_eq_true ..).mp hm, rfl⟩
    | false =>
      rw [mayDelete, if_pos hlive] at hm
      split at hm <;> cases hm

theorem deleteRow_eq_drop {s : Store} {row : Row} (h : Change.Allowed s (.drop row)) :
    deleteRow row s = .ok () (s.drop row) := by
  rw [Store.deleteRow_apply, (mayDelete_eq_true ..).mpr h]

/-- A row that was deleted is out of sight and refused after every continuation of the run; a second
deletion does nothing, or is an error if the settings say so. -/
theorem deleted_row_run {s t : Store} {row : Row} (hs : s.Reachable) (hlive : s.isLive row = true)
    (hdelete : deleteRow row s = .ok () t) (es : List Edit) :
    (t.run es).Unseen row ∧ (t.run es).Refuses row ∧
      deleteRow row (t.run es) = match s.config.doubleDelete with
        | .ignore => .ok () (t.run es)
        | .error => .error (.doubleDelete row) (t.run es) := by
  obtain ⟨hdrop, rfl⟩ := eq_drop_of_deleteRow hlive hdelete
  have hw : (s.drop row).WellFormed := hs.wellFormed.apply hdrop
  have hr := (retired_drop hs.wellFormed hlive).run hw es
  have hconfig : ((s.drop row).run es).config = s.config :=
    (config_run ..).trans (config_apply s (.drop row))
  refine ⟨hr.unseen (hw.run es), refuses_of_not_live hr.not_live, ?_⟩
  rw [hr.deleteRow_apply, hconfig]

theorem deleted_row_run_frame :
    let s := (withConfig { initialRowCapacity := 0, doubleDelete := .error }).run
      [.createRow, .createRow, .register { name := "flag", type := .bool }, .setRaw ⟨0⟩ ⟨2⟩ [1],
        .addFrame ⟨1⟩ ⟨2⟩]
    let t := (s.drop ⟨2⟩).run [.createRow, .setRaw ⟨0⟩ ⟨2⟩ [0], .addFrame ⟨3⟩ ⟨2⟩]
    s.isLive ⟨2⟩ = true ∧ deleteRow ⟨2⟩ s = .ok () (s.drop ⟨2⟩) ∧
      t.Unseen ⟨2⟩ ∧ t.Refuses ⟨2⟩ ∧ deleteRow ⟨2⟩ t = .error (.doubleDelete ⟨2⟩) t := by
  intro s t
  have hlive : s.isLive ⟨2⟩ = true := by decide
  have hdelete : deleteRow ⟨2⟩ s = .ok () (s.drop ⟨2⟩) := deleteRow_eq_drop ⟨hlive, by decide⟩
  exact ⟨hlive, hdelete, deleted_row_run ⟨_, _, rfl⟩ hlive hdelete _⟩

end TrackStore.Store
