import TrackStore.Store.Lemmas

/-! # What reading a store answers

When each check passes, and what the untyped reads answer where it does, in terms of the tables of
the store.
-/
namespace TrackStore

theorem Registry.descriptor_eq_ok (r : Registry) (field : FieldId) (d : FieldDescriptor) :
    r.descriptor field = .ok d ↔ r.descriptors[field.index]? = some d := by
  unfold descriptor
  cases r.descriptors[field.index]? <;> simp

theorem Registry.register_eq_new (r r' : Registry) (d : FieldDescriptor) (field : FieldId) :
    r.register d = .ok ((field, true), r') ↔
      r.lookup d.name = none ∧ r.size < maxFields ∧ field = ⟨r.size⟩ ∧ r' = r.append d := by
  unfold register
  cases r.lookup d.name with
  | some known =>
    simp only [bind, Except.bind, pure, Except.pure, throw, throwThe, MonadExceptOf.throw]
    cases r.descriptor known with
    | error e => simp
    | ok existing => by_cases ht : existing.type = d.type <;> simp [ht]
  | none =>
    by_cases hsize : r.size < maxFields <;> simp [hsize, eq_comm]

theorem Registry.register_eq_known (r r' : Registry) (d : FieldDescriptor) (field : FieldId) :
    r.register d = .ok ((field, false), r') ↔
      r.lookup d.name = some field ∧
        (∃ known, r.descriptor field = .ok known ∧ known.type = d.type) ∧ r' = r := by
  unfold register
  cases r.lookup d.name with
  | some found =>
    simp only [bind, Except.bind, pure, Except.pure, throw, throwThe, MonadExceptOf.throw]
    constructor
    · intro h
      cases hknown : r.descriptor found with
      | error e => simp [hknown] at h
      | ok known =>
        by_cases ht : known.type = d.type
        · simp only [hknown, ht, if_true] at h
          cases h
          exact ⟨rfl, ⟨known, hknown, ht⟩, rfl⟩
        · simp [hknown, ht] at h
    · rintro ⟨hfound, ⟨known, hknown, ht⟩, rfl⟩
      cases hfound
      simp [hknown, ht]
  | none => by_cases hsize : r.size < maxFields <;> simp [hsize]

namespace Store

theorem checkRow_eq_ok (s : Store) (row : Row) : s.checkRow row = .ok () ↔ s.isLive row = true := by
  unfold checkRow
  split <;> simp_all

theorem checkRow_of_not_live {s : Store} {row : Row} (h : s.isLive row = false) :
    s.checkRow row = .error (.staleRow row) := by
  simp [checkRow, h]

theorem column_eq_ok (s : Store) (field : FieldId) (c : Column) :
    s.column field = .ok c ↔ s.columns[field.index]? = some c := by
  unfold column
  cases s.columns[field.index]? <;> simp

theorem column_of_lt {s : Store} {field : FieldId} (hf : field.index < s.columns.size) :
    s.column field = .ok s.columns[field.index] :=
  (column_eq_ok ..).mpr (Array.getElem?_eq_getElem hf)

theorem columnAt_eq_ok (s : Store) (field : FieldId) (row : Row) (c : Column) :
    s.columnAt field row = .ok c ↔ s.isLive row = true ∧ s.columns[field.index]? = some c := by
  rw [← column_eq_ok]
  unfold columnAt checkRow
  cases s.isLive row <;> simp [bind, Except.bind]

theorem checkType_eq_ok (s : Store) (t : FieldType) (field : FieldId) :
    s.checkType t field = .ok () ↔ ∃ d, s.describeField field = .ok d ∧ d.type = t := by
  unfold checkType
  cases s.describeField field with
  | error e => simp [bind, Except.bind]
  | ok d => by_cases ht : d.type = t <;> simp [bind, Except.bind, pure, Except.pure, throw,
      throwThe, MonadExceptOf.throw, ht]

theorem framesAt_eq_ok (s : Store) (track : Row) (frames : List Row) :
    s.framesAt track = .ok frames ↔ s.isLive track = true ∧ s.framesOf track = frames := by
  unfold framesAt checkRow
  cases s.isLive track <;> simp [bind, Except.bind, pure, Except.pure]

theorem owningTrack_eq_ok (s : Store) (frame : Row) (owner : Option Row) :
    s.owningTrack frame = .ok owner ↔ s.isLive frame = true ∧ s.owners[frame]? = owner := by
  unfold owningTrack checkRow
  cases s.isLive frame <;> simp [bind, Except.bind, pure, Except.pure]

theorem mayDelete_eq_true (s : Store) (row : Row) :
    s.mayDelete row = .ok true ↔ s.isLive row = true ∧ s.framesOf row = [] := by
  unfold mayDelete
  cases hlive : s.isLive row with
  | true => by_cases hf : s.framesOf row = [] <;> simp [hf]
  | false =>
    cases s.rows.wasIssued row with
    | false => simp
    | true => cases s.config.doubleDelete <;> simp

/-- What joining asks of two live rows: the owner of the frame decides before anything else. -/
theorem mayJoin_of_live {s : Store} {track frame : Row} (htrack : s.isLive track = true)
    (hframe : s.isLive frame = true) (hne : track ≠ frame) :
    s.mayJoin track frame = match s.owners[frame]? with
      | some owner => if owner = track then .ok false else .error (.frameOwnership frame owner)
      | none =>
        if s.framesOf frame = [] ∧ s.owners[track]? = none then .ok true
        else .error (.nestedFrame track frame) := by
  simp only [mayJoin, checkRow, htrack, hframe, hne, if_true, if_false, bind, Except.bind,
    Std.ExtTreeMap.contains_eq_isSome_getElem?]
  cases s.owners[frame]? with
  | some owner => rfl
  | none => by_cases hf : s.framesOf frame = [] <;> cases s.owners[track]? <;> simp [hf]

theorem live_of_mayJoin {s : Store} {track frame : Row} {joins : Bool}
    (h : s.mayJoin track frame = .ok joins) :
    s.isLive track = true ∧ s.isLive frame = true ∧ track ≠ frame := by
  unfold mayJoin checkRow at h
  cases htrack : s.isLive track with
  | false => simp [htrack, bind, Except.bind] at h
  | true =>
    cases hframe : s.isLive frame with
    | false => simp [htrack, hframe, bind, Except.bind] at h
    | true =>
      refine ⟨rfl, rfl, ?_⟩
      rintro rfl
      simp [htrack, bind, Except.bind] at h

theorem mayJoin_eq_true (s : Store) (track frame : Row) :
    s.mayJoin track frame = .ok true ↔
      s.isLive track = true ∧ s.isLive frame = true ∧ track ≠ frame ∧ s.owners[frame]? = none ∧
        s.framesOf frame = [] ∧ s.owners[track]? = none := by
  constructor
  · intro h
    obtain ⟨htrack, hframe, hne⟩ := live_of_mayJoin h
    rw [mayJoin_of_live htrack hframe hne] at h
    refine ⟨htrack, hframe, hne, ?_⟩
    cases ho : s.owners[frame]? with
    | some owner => by_cases hown : owner = track <;> simp [ho, hown] at h
    | none => by_cases hfree : s.framesOf frame = [] ∧ s.owners[track]? = none <;> simp_all
  · rintro ⟨htrack, hframe, hne, ho, hfree⟩
    rw [mayJoin_of_live htrack hframe hne, ho]
    exact if_pos hfree

/-- The bytes in a slot, whether or not the row is live and the field known. -/
def slot (s : Store) (field : FieldId) (row : Row) : Option Bytes :=
  s.columns[field.index]?.bind (·[row]?)

theorem slot_of_column {s : Store} {field : FieldId} {column : Column}
    (h : s.column field = .ok column) (row : Row) : s.slot field row = column[row]? := by
  rw [slot, (column_eq_ok ..).mp h]
  rfl

section Live
variable {s : Store} {field : FieldId} {row : Row}

theorem columnAt_of_live (hlive : s.isLive row = true) (hf : field.index < s.columns.size) :
    s.columnAt field row = .ok s.columns[field.index] :=
  (columnAt_eq_ok ..).mpr ⟨hlive, Array.getElem?_eq_getElem hf⟩

theorem getRaw_of_live (hlive : s.isLive row = true) (hf : field.index < s.columns.size) :
    s.getRaw field row = .ok (s.slot field row) := by
  simp [getRaw, slot, columnAt_of_live hlive hf, hf, bind, Except.bind, pure, Except.pure]

theorem hasValue_of_live (hlive : s.isLive row = true) (hf : field.index < s.columns.size) :
    s.hasValue field row = .ok (s.slot field row).isSome := by
  simp [hasValue, slot, columnAt_of_live hlive hf, hf, bind, Except.bind, pure, Except.pure]

end Live

/-- The fields with a value at a row, whether or not it is live. -/
def filledFields (s : Store) (row : Row) : List FieldId :=
  s.columns.toList.zipIdx.filterMap fun (c, i) => if c.contains row then some ⟨i⟩ else none

theorem fieldsAt_of_live {s : Store} {row : Row} (hlive : s.isLive row = true) :
    s.fieldsAt row = .ok (s.filledFields row) := by
  simp [fieldsAt, filledFields, checkRow, hlive, bind, Except.bind, pure, Except.pure]

theorem mem_filledFields (s : Store) (row : Row) (field : FieldId) :
    field ∈ s.filledFields row ↔ (s.slot field row).isSome = true := by
  simp only [filledFields, List.mem_filterMap, Prod.exists, List.mk_mem_zipIdx_iff_getElem?,
    Array.getElem?_toList, slot]
  constructor
  · rintro ⟨c, i, hc, hi⟩
    obtain ⟨hrow, hi⟩ := Option.ite_none_right_eq_some.mp hi
    cases hi
    simpa [hc] using hrow
  · intro h
    cases hc : s.columns[field.index]? with
    | none => simp [hc] at h
    | some c =>
      have hrow : c.contains row = true := by simpa [hc] using h
      exact ⟨c, field.index, hc, by rw [if_pos hrow]⟩

theorem pairwise_filledFields (s : Store) (row : Row) :
    (s.filledFields row).Pairwise (·.index < ·.index) := by
  have hplaces : s.columns.toList.zipIdx.Pairwise (·.2 < ·.2) := by
    rw [← List.pairwise_map, List.zipIdx_map_snd]
    exact List.pairwise_lt_range'
  refine hplaces.filterMap _ ?_
  intro ⟨c, n⟩ ⟨d, m⟩ hab i hi j hj
  simp only [Option.ite_none_right_eq_some, Option.some.injEq] at hi hj
  obtain ⟨-, rfl⟩ := hi
  obtain ⟨-, rfl⟩ := hj
  exact hab

end Store
end TrackStore
