import TrackStore.Field.Accessor
import TrackStore.Proofs.Typed

/-! # Access to a slot

A live row and a field of the type asked for are all that any read or write of a slot asks. Where
both are given, the only thing that can still go wrong is that the slot holds no value of the type.
-/
namespace TrackStore

theorem FieldType.codec_of_decodeSlot {t : FieldType} {bytes : Bytes} {e : Error}
    (h : t.decodeSlot bytes = .error e) : ∃ cause, e = .codec cause := by
  unfold decodeSlot at h
  cases hd : t.decode bytes with
  | ok v => simp [hd, Except.mapError] at h
  | error cause =>
    simp only [hd, Except.mapError, Except.error.injEq] at h
    exact ⟨cause, h.symm⟩

namespace Store

/-- The row is live and the field is declared with the type. -/
structure Access (s : Store) (t : FieldType) (field : FieldId) (row : Row) : Prop where
  wellFormed : s.WellFormed
  live : s.isLive row = true
  type : s.checkType t field = .ok ()

namespace Access

variable {s : Store} {t : FieldType} {field : FieldId} {row : Row}

theorem index_lt (h : s.Access t field row) : field.index < s.columns.size :=
  h.wellFormed.index_lt_of_checkType h.type

theorem write_allowed (h : s.Access t field row) (bytes : Bytes) :
    Change.Allowed s (.write field row bytes) := ⟨h.live, h.index_lt⟩

theorem write (h : s.Access t field row) (bytes : Bytes) :
    (Change.apply s (.write field row bytes)).Access t field row where
  wellFormed := h.wellFormed.apply (h.write_allowed bytes)
  live := h.live
  type := h.type

theorem setRaw_eq (h : s.Access t field row) (bytes : Bytes) :
    setRaw field row bytes s = .ok () (Change.apply s (.write field row bytes)) := by
  rw [setRaw_apply, columnAt_of_live h.live h.index_lt]
  rfl

theorem setValue_eq (h : s.Access t field row) (v : t.Value) :
    setValue t field row v s = .ok () (Change.apply s (.write field row (t.encode v))) :=
  setValue_of_live h.live h.index_lt h.type v

theorem slot_write_self (h : s.Access t field row) (bytes : Bytes) :
    (Change.apply s (.write field row bytes)).slot field row = some bytes :=
  (slot_write h.index_lt ..).trans (if_pos ⟨rfl, rfl⟩)

/-- What is read where bytes were just written. -/
theorem getValue_write (h : s.Access t field row) (bytes : Bytes) :
    (Change.apply s (.write field row bytes)).getValue t field row =
      (t.decodeSlot bytes).map some := by
  have hw := h.write bytes
  rw [getValue_of_live hw.wellFormed hw.live hw.type, h.slot_write_self]
  rfl

theorem codec_of_getValue (h : s.Access t field row) {e : Error}
    (he : s.getValue t field row = .error e) : ∃ cause, e = .codec cause := by
  rw [getValue_of_live h.wellFormed h.live h.type] at he
  cases hslot : s.slot field row with
  | none =>
    rw [hslot] at he
    cases he
  | some bytes =>
    cases hdecode : t.decodeSlot bytes with
    | ok v => simp [hslot, hdecode] at he
    | error e' =>
      simp only [hslot, Option.mapM_some, hdecode] at he
      cases he
      exact FieldType.codec_of_decodeSlot hdecode

end Access

end Store
end TrackStore
