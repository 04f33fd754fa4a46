import TrackStore.Field.Value.Lemmas
import TrackStore.Proofs.Access

/-! # The format of a slot

What a typed read answers after bytes were stored, and after a value was stored. A value is found at
the front of the bytes, in the one form in which it is written.
-/
namespace TrackStore

theorem FieldType.decodeSlot_eq_ok {t : FieldType} (bytes : Bytes) (v : t.Value) :
    t.decodeSlot bytes = .ok v ↔ t.Fits v ∧ ∃ rest, bytes = t.encode v ++ rest := by
  rw [← decode_eq_ok, decodeSlot]
  cases t.decode bytes <;> simp [Except.mapError]

namespace Store

variable {s : Store} {t : FieldType} {row : Row}

/-- What a read answers after bytes were stored, and what storing the value again leaves. -/
theorem Access.getAt_write {a : Accessor t} (h : s.Access t a.field row) (bytes : Bytes) :
    let u := Change.apply s (.write a.field row bytes)
    (∀ v, a.getAt u row = .ok (some v) ↔ t.Fits v ∧ ∃ rest, bytes = t.encode v ++ rest) ∧
      ((¬ ∃ v rest, t.Fits v ∧ bytes = t.encode v ++ rest) →
        ∃ cause, a.getAt u row = .error (.codec cause)) := by
  intro u
  have hread : a.getAt u row = (t.decodeSlot bytes).map some := h.getValue_write bytes
  have hiff (v : t.Value) : a.getAt u row = .ok (some v) ↔ t.decodeSlot bytes = .ok v := by
    rw [hread]
    cases t.decodeSlot bytes <;> simp [Except.map]
  refine ⟨fun v => (hiff v).trans (FieldType.decodeSlot_eq_ok bytes v), fun hnone => ?_⟩
  cases hdecode : t.decodeSlot bytes with
  | ok v =>
    obtain ⟨hfits, rest, he⟩ := (FieldType.decodeSlot_eq_ok bytes v).mp hdecode
    exact absurd ⟨v, rest, hfits, he⟩ hnone
  | error e =>
    obtain ⟨cause, rfl⟩ := FieldType.codec_of_decodeSlot hdecode
    exact ⟨cause, by rw [hread, hdecode]; rfl⟩

/-- A slot is read as the value at the front of its bytes, whatever follows, or not at all. A value
is read as it was written, bit for bit, and no value begins with the bytes of another. -/
theorem slot_format (hs : s.Reachable) (hlive : s.isLive row = true) (a : Accessor t)
    (hd : ∃ d, s.describeField a.field = .ok d ∧ d.type = t) :
    (∀ bytes, ∃ u, setRaw a.field row bytes s = .ok () u ∧
      (∀ v, a.getAt u row = .ok (some v) ↔ t.Fits v ∧ ∃ rest, bytes = t.encode v ++ rest) ∧
      ((¬ ∃ v rest, t.Fits v ∧ bytes = t.encode v ++ rest) →
        ∃ cause, a.getAt u row = .error (.codec cause)) ∧
      ∀ v, a.getAt u row = .ok (some v) → ∃ w stored, a.setAt row v u = .ok () w ∧
        w.getRaw a.field row = .ok (some stored) ∧ stored <+: bytes) ∧
    (∀ v, t.Fits v → ∃ u, a.setAt row v s = .ok () u ∧ a.getAt u row = .ok (some v)) ∧
    (∀ v w, t.Fits v → t.Fits w → v ≠ w → t.encode v ≠ t.encode w) ∧
    ∀ v w, t.Fits v → t.Fits w → t.encode v <+: t.encode w → t.encode v = t.encode w := by
  have h : s.Access t a.field row := ⟨hs.wellFormed, hlive, (checkType_eq_ok ..).mpr hd⟩
  refine ⟨fun bytes => ?_, fun v hv => ?_, fun v w hv hw hne he => ?_, fun v w hv hw hprefix => ?_⟩
  · obtain ⟨hvalue, herror⟩ := h.getAt_write bytes
    refine ⟨_, h.setRaw_eq bytes, hvalue, herror, fun v hv => ?_⟩
    have hu := h.write bytes
    obtain ⟨-, rest, he⟩ := (hvalue v).mp hv
    refine ⟨_, t.encode v, hu.setValue_eq v, ?_, rest, he.symm⟩
    have hw := hu.write (t.encode v)
    rw [getRaw_of_live hw.live hw.index_lt, hu.slot_write_self]
  · refine ⟨_, h.setValue_eq v, ?_⟩
    exact ((h.getAt_write (t.encode v)).1 v).mpr ⟨hv, [], (List.append_nil _).symm⟩
  · exact hne (t.exact_codec.encode_append_inj hv hw (congrArg (· ++ []) he)).1
  · obtain ⟨rest, he⟩ := hprefix
    have he' : t.encode v ++ rest = t.encode w ++ [] := he.trans (List.append_nil _).symm
    exact congrArg t.encode (t.exact_codec.encode_append_inj hv hw he').1

/-- A list with the text "é" and one byte more. -/
theorem slot_format_names :
    let s := (withConfig { initialRowCapacity := 0 }).run
      [.createRow, .register { name := "names", type := .list .text }]
    let a : Accessor (.list .text) := { field := ⟨0⟩, name := "names" }
    let bytes : Bytes :=
      [1, 0, 0, 0, 0, 0, 0, 0, 2, 0, 0, 0, 0, 0, 0, 0, 0xC3, 0xA9, 7]
    s.isLive ⟨1⟩ = true ∧
      s.describeField a.field = .ok { name := "names", type := .list .text } ∧
      ∃ u, setRaw a.field ⟨1⟩ bytes s = .ok () u ∧
        a.getAt u ⟨1⟩ = .ok (some [String.ofList [Char.ofNat 0xE9]]) ∧
        ∃ w stored, a.setAt ⟨1⟩ [String.ofList [Char.ofNat 0xE9]] u = .ok () w ∧
          w.getRaw a.field ⟨1⟩ = .ok (some stored) ∧ stored <+: bytes := by
  intro s a bytes
  have hlive : s.isLive ⟨1⟩ = true := by decide
  have hd : s.describeField a.field = .ok { name := "names", type := .list .text } := rfl
  obtain ⟨u, hu, hvalue, -, hagain⟩ :=
    (slot_format (s := s) ⟨_, _, rfl⟩ hlive a ⟨_, hd, rfl⟩).1 bytes
  have hread : a.getAt u ⟨1⟩ = .ok (some [String.ofList [Char.ofNat 0xE9]]) := by
    refine (hvalue _).mpr ⟨?_, [7], by decide⟩
    simp only [FieldType.Fits, List.forall_mem_singleton]
    decide
  exact ⟨hlive, hd, u, hu, hread, hagain _ hread⟩

end Store
end TrackStore
