import TrackStore.Field.Value.Lemmas
import TrackStore.Proofs.History

/-! # What the slots of a field hold

The type of a field never changes. A call that writes into a field without a look at its type is the
only one that can leave something else there than a value of that type: all others write the value
that they were given, or move bytes from one slot of the field to another.
-/
namespace TrackStore

namespace Store

theorem describeField_eq_ok (s : Store) (field : FieldId) (d : FieldDescriptor) :
    s.describeField field = .ok d ↔ s.registry.descriptors[field.index]? = some d :=
  s.registry.descriptor_eq_ok field d

theorem descriptors_apply (s : Store) (c : Change) (field : FieldId) :
    (c.apply s).registry.descriptors[field.index]? = match c with
      | .declare d =>
        if field.index = s.registry.size then some d else s.registry.descriptors[field.index]?
      | _ => s.registry.descriptors[field.index]? := by
  rw [registry_apply]
  cases c with
  | declare d => exact Registry.descriptors_append ..
  | _ => rfl

theorem describeField_apply {s : Store} {field : FieldId} {d : FieldDescriptor}
    (h : s.describeField field = .ok d) (c : Change) : (c.apply s).describeField field = .ok d := by
  rw [describeField_eq_ok] at h ⊢
  obtain ⟨hlt, -⟩ := Array.getElem?_eq_some_iff.mp h
  rw [descriptors_apply]
  cases c with
  | declare d' => exact (if_neg (Nat.ne_of_lt hlt)).trans h
  | _ => exact h

/-- What is declared for a field stays so. -/
theorem describeField_run {s : Store} {field : FieldId} {d : FieldDescriptor}
    (h : s.describeField field = .ok d) (es : List Edit) :
    (s.run es).describeField field = .ok d :=
  run_keeps (P := fun s => s.describeField field = .ok d)
    (fun _ c _ h => describeField_apply h c) h es

/-- A field that is described after a change was described before, or has no values yet. -/
theorem describeField_or_empty {s : Store} (hs : s.WellFormed) {c : Change} {field : FieldId}
    {d : FieldDescriptor} (h : (c.apply s).describeField field = .ok d) :
    s.describeField field = .ok d ∨ ∀ row, (c.apply s).slot field row = none := by
  rw [describeField_eq_ok, descriptors_apply] at h
  rw [describeField_eq_ok]
  cases c with
  | declare d' =>
    by_cases hindex : field.index = s.registry.size
    · have hbeyond : s.columns.size ≤ field.index := by
        rw [hs.columns]
        exact Nat.le_of_eq hindex.symm
      have hnew : s.columns[field.index]? = none := Array.getElem?_eq_none hbeyond
      exact .inr fun row => (slot_declare s d' field row).trans (by simp [slot, hnew])
    · simp only [hindex, if_false] at h
      exact .inl h
  | _ => exact .inl h

end Store

/-- Where the bytes come from that a call writes. -/
theorem Edit.write_cases {e : Edit} {s : Store} {field : FieldId} {row : Row} {bytes : Bytes}
    (h : e.change s = some (.write field row bytes)) :
    e = .setRaw field row bytes ∨
      (∃ t v, e = .setValue t field row v ∧ s.checkType t field = .ok () ∧ bytes = t.encode v) ∨
      ∃ src, e = .copyValue field src row ∧ s.slot field src = some bytes := by
  cases e <;> simp only [change] at h
  case createRow => cases h
  case setRaw => split at h <;> cases h; exact .inl rfl
  case setValue t f r v =>
    split at h <;> cases h
    exact .inr (.inl ⟨t, v, rfl, ‹_›, rfl⟩)
  case copyValue f src dst =>
    split at h
    next column _ hcolumn =>
      obtain ⟨b, hb, hc⟩ := Option.map_eq_some_iff.mp h
      cases hc
      have hcolumn := (Store.column_eq_ok ..).mpr ((Store.columnAt_eq_ok ..).mp hcolumn).2
      exact .inr (.inr ⟨src, rfl, (Store.slot_of_column hcolumn src).trans hb⟩)
    next => cases h
  all_goals split at h <;> cases h

namespace Store

section Encoded
variable {good : (t : FieldType) → t.Value → Prop} {field : FieldId}

/-- Every slot of the field holds a good value of the declared type, and nothing behind it. -/
def Encoded (good : (t : FieldType) → t.Value → Prop) (s : Store) (field : FieldId) : Prop :=
  ∀ d row bytes, s.describeField field = .ok d → s.slot field row = some bytes →
    ∃ v, good d.type v ∧ bytes = d.type.encode v

/-- The call writes into the field good values of the declared type only. -/
structure WritesGood (good : (t : FieldType) → t.Value → Prop) (field : FieldId) (e : Edit) :
    Prop where
  not_raw : ∀ row bytes, e ≠ .setRaw field row bytes
  good : ∀ t row v, e = .setValue t field row v → good t v

theorem encoded_withConfig (config : Config) : (withConfig config).Encoded good field := by
  intro d row bytes hd hslot
  simp [slot, withConfig] at hslot

theorem Encoded.after {s : Store} (hs : s.WellFormed) (h : s.Encoded good field) {e : Edit}
    (he : WritesGood good field e) : (e.after s).Encoded good field := by
  rw [Edit.after_eq]
  cases hc : e.change s with
  | none => exact h
  | some c =>
    intro d row bytes hd hslot
    simp only [Option.map_some, Option.getD_some] at hd hslot
    rcases describeField_or_empty hs hd with hold | hempty
    · rw [slot_apply s c field row (Edit.change_allowed hc)] at hslot
      cases c with
      | write f r b =>
        by_cases hrow : field = f ∧ row = r
        · obtain ⟨rfl, rfl⟩ := hrow
          simp only [and_self, if_true, Option.some.injEq] at hslot
          subst hslot
          rcases Edit.write_cases hc with hraw | ⟨t, v, hvalue, htype, rfl⟩ | ⟨src, -, hsrc⟩
          · exact absurd hraw (he.not_raw row b)
          · obtain ⟨d', hd', rfl⟩ := (checkType_eq_ok ..).mp htype
            cases hold.symm.trans hd'
            exact ⟨v, he.good _ _ _ hvalue, rfl⟩
          · exact h d src b hold hsrc
        · exact h d row bytes hold ((if_neg hrow).symm.trans hslot)
      | clear f r => exact h d row bytes hold (Option.ite_none_left_eq_some.mp hslot).2
      | drop r => exact h d row bytes hold (Option.ite_none_left_eq_some.mp hslot).2
      | _ => exact h d row bytes hold hslot
    · simp [hempty row] at hslot

theorem Encoded.run {s : Store} (hs : s.WellFormed) (h : s.Encoded good field) {es : List Edit}
    (hes : ∀ e ∈ es, WritesGood good field e) : (s.run es).Encoded good field := by
  induction es generalizing s with
  | nil => exact h
  | cons e es ih =>
    obtain ⟨he, hes⟩ := List.forall_mem_cons.mp hes
    exact ih (hs.after e) (h.after hs he) hes

end Encoded

end Store
end TrackStore
