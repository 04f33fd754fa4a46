import TrackStore.Proofs.WellFormed

/-! # Typed reads

What a typed read of a live row answers in a well-formed store, in terms of the bytes in the slot.
-/
namespace TrackStore.Store

/-- The value in a slot, if the slot holds bytes that begin with one. -/
def valueAt (s : Store) (t : FieldType) (field : FieldId) (row : Row) : Option t.Value :=
  (s.slot field row).bind fun bytes => (t.decode bytes).toOption

/-- A slot without value, or one whose bytes begin with a value of the type. -/
def Readable (s : Store) (t : FieldType) (field : FieldId) (row : Row) : Prop :=
  ∀ bytes, s.slot field row = some bytes → ∃ v, t.decode bytes = .ok v

instance (s : Store) (t : FieldType) (field : FieldId) (row : Row) :
    Decidable (s.Readable t field row) :=
  decidable_of_iff ((s.slot field row).all fun bytes => (t.decode bytes).isOk) <| by
    unfold Readable
    cases s.slot field row with
    | none => simp
    | some bytes => cases h : t.decode bytes <;> simp [h, Except.isOk, Except.toBool]

variable {s : Store} {t : FieldType} {field : FieldId} {row : Row}

theorem readable_of_slot {bytes : Bytes} (hslot : s.slot field row = some bytes) {v : t.Value}
    (hv : t.decode bytes = .ok v) : s.Readable t field row := by
  intro found hfound
  cases hslot.symm.trans hfound
  exact ⟨v, hv⟩

theorem index_lt_of_checkType (h : s.checkType t field = .ok ()) :
    field.index < s.registry.size := by
  obtain ⟨d, hd, -⟩ := (checkType_eq_ok ..).mp h
  unfold describeField Registry.descriptor at hd
  split at hd
  · exact (Array.getElem?_eq_some_iff.mp ‹_›).1
  · cases hd

theorem WellFormed.index_lt_of_checkType (hs : s.WellFormed) (h : s.checkType t field = .ok ()) :
    field.index < s.columns.size := by
  rw [hs.columns]
  exact Store.index_lt_of_checkType h

theorem getValue_of_live (hs : s.WellFormed) (hlive : s.isLive row = true)
    (htype : s.checkType t field = .ok ()) :
    s.getValue t field row = (s.slot field row).mapM t.decodeSlot := by
  have hindex := hs.index_lt_of_checkType htype
  simp only [getValue, htype, getRaw_of_live hlive hindex]
  rfl

theorem getValue_of_readable (hs : s.WellFormed) (hlive : s.isLive row = true)
    (htype : s.checkType t field = .ok ()) (hread : s.Readable t field row) :
    s.getValue t field row = .ok (s.valueAt t field row) := by
  rw [getValue_of_live hs hlive htype, valueAt]
  cases hb : s.slot field row with
  | none => rfl
  | some bytes =>
    obtain ⟨v, hv⟩ := hread bytes hb
    simp [FieldType.decodeSlot, hv, Except.mapError, Except.toOption]

theorem setValue_of_live (hlive : s.isLive row = true) (hf : field.index < s.columns.size)
    (htype : s.checkType t field = .ok ()) (v : t.Value) :
    setValue t field row v s =
      .ok () (s.modifyColumn field (·.insert row (t.encode v))) := by
  rw [setValue_apply, htype]
  simp only [setRaw_apply, columnAt_of_live hlive hf]

end TrackStore.Store
