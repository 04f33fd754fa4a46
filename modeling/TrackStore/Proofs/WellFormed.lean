import TrackStore.Proofs.Membership

/-! # The invariant of a store

What holds of a new store, is kept by every allowed change, and hence holds after every run.
-/
namespace TrackStore

/-- Numbers are issued from 1, and only issued rows are live. -/
structure RowAllocator.WellFormed (a : RowAllocator) : Prop where
  next_pos : 0 < a.next
  issued : ∀ row, a.isLive row = true → a.wasIssued row = true

/-- The names and the descriptions are inverse to each other. -/
def Registry.WellFormed (r : Registry) : Prop :=
  ∀ name field, r.lookup name = some field ↔
    ∃ d, r.descriptors[field.index]? = some d ∧ d.name = name

namespace Store

structure WellFormed (s : Store) : Prop where
  rows : s.rows.WellFormed
  registry : s.registry.WellFormed
  columns : s.columns.size = s.registry.size
  slots : ∀ field row, s.slot field row ≠ none → s.isLive row = true
  membership : s.Membership

end Store

namespace RowAllocator

theorem wasIssued_allocate (a : RowAllocator) (h : 0 < a.next) (row : Row) :
    a.allocate.2.wasIssued row = (a.wasIssued row || decide (row = a.allocate.1)) := by
  obtain ⟨id⟩ := row
  simp only [wasIssued, allocate, Row.mk.injEq]
  by_cases he : id = a.next
  · subst he
    simp; omega
  · have hlt : id < a.next + 1 ↔ id < a.next := by omega
    simp [he, hlt]

theorem wellFormed_withCapacity (rows : Nat) : (withCapacity rows).WellFormed where
  next_pos := Nat.one_pos
  issued row h := by simp [isLive_withCapacity] at h

theorem WellFormed.allocate {a : RowAllocator} (h : a.WellFormed) : a.allocate.2.WellFormed where
  next_pos := Nat.succ_pos _
  issued row hlive := by
    rw [isLive_allocate, Bool.or_eq_true] at hlive
    rw [wasIssued_allocate a h.next_pos, Bool.or_eq_true]
    exact hlive.imp_left (h.issued row)

theorem WellFormed.release {a : RowAllocator} (h : a.WellFormed) (row : Row) :
    (a.release row).2.WellFormed where
  next_pos := h.next_pos
  issued other hlive := by
    rw [isLive_release, Bool.and_eq_true] at hlive
    exact h.issued other hlive.1

end RowAllocator

namespace Registry

theorem wellFormed_empty : empty.WellFormed := by
  intro name field
  simp [empty, lookup]

theorem descriptors_append (r : Registry) (d : FieldDescriptor) (i : Nat) :
    (r.append d).descriptors[i]? = if i = r.size then some d else r.descriptors[i]? :=
  Array.getElem?_push

theorem WellFormed.append {r : Registry} (h : r.WellFormed) {d : FieldDescriptor}
    (hnew : r.lookup d.name = none) : (r.append d).WellFormed := by
  intro name field
  rw [lookup_append, descriptors_append]
  by_cases hlast : field.index = r.size
  · have hnone : r.lookup name ≠ some field := by
      intro hl
      obtain ⟨d', hd', -⟩ := (h name field).mp hl
      obtain ⟨hlt, -⟩ := Array.getElem?_eq_some_iff.mp hd'
      exact absurd hlt (by simp only [hlast, size]; omega)
    have hfield : field = ⟨r.size⟩ := by cases field; simp_all
    by_cases hn : name = d.name
    · simp [hn, hfield]
    · simp [hn, hlast, hnone, Ne.symm hn]
  · have hfield : (⟨r.size⟩ : FieldId) ≠ field := fun e => hlast (by rw [← e])
    by_cases hn : name = d.name
    · subst hn
      simp only [if_true, Option.some.injEq, hfield, hlast, if_false, false_iff, ← h d.name field,
        hnew]
      rintro ⟨⟩
    · simp only [hn, hlast, if_false]
      exact h name field

end Registry

namespace Store

theorem wellFormed_withConfig (config : Config) : (withConfig config).WellFormed where
  rows := RowAllocator.wellFormed_withCapacity _
  registry := Registry.wellFormed_empty
  columns := rfl
  slots field row h := by simp [slot, withConfig] at h
  membership := membership_withConfig config

/-- No change leaves a value at a row that is not live. -/
theorem slots_live_apply {s : Store}
    (h : ∀ field row, s.slot field row ≠ none → s.isLive row = true) {c : Change}
    (hc : c.Allowed s) (field : FieldId) (row : Row)
    (hs : (c.apply s).slot field row ≠ none) : (c.apply s).isLive row = true := by
  rw [slot_apply s c field row hc] at hs
  rw [isLive_apply]
  cases c with
  | issue => simp [h field row hs]
  | write f r bytes =>
    by_cases hr : row = r
    · exact hr ▸ hc.1
    · simp only [hr, and_false, if_false] at hs
      exact h field row hs
  | clear f r =>
    simp only [ne_eq, ite_eq_left_iff, not_forall] at hs
    exact h field row hs.2
  | drop r =>
    simp only [ne_eq, ite_eq_left_iff, not_forall] at hs
    simp [h field row hs.2, hs.1]
  | _ => exact h field row hs

theorem WellFormed.apply {s : Store} (h : s.WellFormed) {c : Change} (hc : c.Allowed s) :
    (c.apply s).WellFormed where
  rows := by
    rw [rows_apply]
    cases c with
    | issue => exact h.rows.allocate
    | drop row => exact h.rows.release row
    | _ => exact h.rows
  registry := by
    rw [registry_apply]
    cases c with
    | declare d => exact h.registry.append hc.1
    | _ => exact h.registry
  columns := by
    rw [size_columns_apply, registry_apply]
    cases c with
    | declare d => simp [h.columns, Registry.size_append]
    | _ => exact h.columns
  slots := slots_live_apply h.slots hc
  membership := h.membership.apply hc

theorem WellFormed.run {s : Store} (h : s.WellFormed) (es : List Edit) : (s.run es).WellFormed :=
  run_keeps (fun _ _ hc h => h.apply hc) h es

theorem WellFormed.index_lt {s : Store} (h : s.WellFormed) {field : FieldId}
    (hf : s.registry.contains field = true) : field.index < s.columns.size := by
  rw [h.columns]
  exact of_decide_eq_true hf

theorem Reachable.wellFormed {s : Store} (h : s.Reachable) : s.WellFormed := by
  obtain ⟨config, es, rfl⟩ := h
  exact (wellFormed_withConfig config).run es

section NotLive
variable {s : Store} {row : Row}

theorem WellFormed.not_live_of_next_le (h : s.WellFormed) (hrow : s.rows.next ≤ row.id) :
    s.isLive row = false := by
  cases hlive : s.isLive row with
  | false => rfl
  | true =>
    have hissued := h.rows.issued row hlive
    simp only [RowAllocator.wasIssued, Bool.and_eq_true, decide_eq_true_eq] at hissued
    omega

theorem WellFormed.next_not_live (h : s.WellFormed) : s.isLive s.rows.allocate.1 = false :=
  h.not_live_of_next_le (Nat.le_refl _)

theorem WellFormed.slot_of_not_live (h : s.WellFormed) (hrow : s.isLive row = false)
    (field : FieldId) : s.slot field row = none := by
  by_contra hslot
  simp [h.slots field row hslot] at hrow

theorem WellFormed.owner_of_not_live (h : s.WellFormed) (hrow : s.isLive row = false) :
    s.owners[row]? = none := by
  cases ho : s.owners[row]? with
  | none => rfl
  | some track => simp [(h.membership.owner_live track row ho).1] at hrow

theorem WellFormed.framesOf_of_not_live (h : s.WellFormed) (hrow : s.isLive row = false) :
    s.framesOf row = [] := by
  have hkey : row ∉ s.frames := by
    intro hmem
    simp [h.membership.keys_live row hmem] at hrow
  exact Std.ExtTreeMap.getD_eq_fallback hkey

end NotLive

end Store
end TrackStore
