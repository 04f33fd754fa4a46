import TrackStore.Proofs.Deletion

/-! # The history of a slot

The history of a slot lists what the successful calls of a run did to it: writes and removals. What
a slot of a live row holds is what the last event of its history left there. The statement is about
all rows that were not deleted, issued or not, because a row of the end of a run may not be issued
yet at its start.
-/
namespace TrackStore

/-- What a successful call did to one slot. -/
inductive SlotEvent where
  | write (bytes : Bytes)
  | remove
deriving DecidableEq, Repr

/-- What the event left in the slot. -/
def SlotEvent.left : SlotEvent → Option Bytes
  | write bytes => some bytes
  | remove => none

/-- The event of a call at a slot, if it succeeds and concerns the slot. A copy from a slot without
value is no event. -/
def Edit.event (field : FieldId) (row : Row) (s : Store) (e : Edit) : Option SlotEvent :=
  if e.succeeds s then
    match e with
    | setRaw f r bytes => if f = field ∧ r = row then some (.write bytes) else none
    | setValue t f r v => if f = field ∧ r = row then some (.write (t.encode v)) else none
    | copyValue f src dst => if f = field ∧ dst = row then (s.slot f src).map .write else none
    | removeAt f r => if f = field ∧ r = row then some .remove else none
    | _ => none
  else none

/-- The events at a slot in the course of a run. -/
def Store.history (field : FieldId) (row : Row) (s : Store) : List Edit → List SlotEvent
  | [] => []
  | e :: es => (e.event field row s).toList ++ (e.after s).history field row es

def Change.event (field : FieldId) (row : Row) : Change → Option SlotEvent
  | write f r bytes => if f = field ∧ r = row then some (.write bytes) else none
  | clear f r => if f = field ∧ r = row then some .remove else none
  | _ => none

theorem Edit.event_eq (field : FieldId) (row : Row) (s : Store) (e : Edit) :
    e.event field row s = (e.change s).bind (Change.event field row) := by
  cases e with
  | createRow => rfl
  | deleteRow r =>
    simp only [event, change]
    rcases s.mayDelete r with e | (_ | _) <;> simp [Change.event]
  | register d =>
    simp only [event, change]
    rcases s.registry.register d with e | ⟨⟨f, _ | _⟩, r⟩ <;> simp [Change.event]
  | setRaw f r bytes =>
    simp only [event, succeeds, perform, Store.setRaw_apply, change]
    cases s.columnAt f r <;> rfl
  | setValue t f r v =>
    simp only [event, succeeds, perform, Store.setValue_apply, Store.setRaw_apply, change]
    cases s.checkType t f <;> cases s.columnAt f r <;> rfl
  | removeAt f r =>
    simp only [event, succeeds, perform, Store.removeAt_apply, Store.hasValue, change]
    cases s.columnAt f r <;> rfl
  | copyValue f src dst =>
    simp only [event, succeeds, perform, Store.copyValue_apply, change]
    cases s.checkRow src with
    | error e => rfl
    | ok _ =>
      cases hc : s.columnAt f dst with
      | error e => rfl
      | ok column =>
        have hcolumn := (Store.column_eq_ok ..).mpr ((Store.columnAt_eq_ok ..).mp hc).2
        rw [Store.slot_of_column hcolumn]
        cases hb : column[src]? <;> simp [hb, Change.event]
  | addFrame track frame =>
    simp only [event, change]
    rcases s.mayJoin track frame with e | (_ | _) <;> simp [Change.event]
  | detachFrame frame =>
    simp only [event, change]
    cases s.checkRow frame <;> simp [Change.event]

namespace Store

/-- What a change leaves in a slot, unless it deletes the row. -/
theorem slot_apply_event {s : Store} {c : Change} (hc : c.Allowed s) (hs : s.WellFormed)
    (field : FieldId) (row : Row) (hr : ¬ (c.apply s).Retired row) :
    (c.apply s).slot field row =
      ((c.event field row).map SlotEvent.left).getD (s.slot field row) := by
  rw [slot_apply s c field row hc]
  cases c with
  | write f r bytes =>
    by_cases h : f = field ∧ r = row
    · simp [Change.event, SlotEvent.left, h]
    · have h' : ¬ (field = f ∧ row = r) := fun e => h ⟨e.1.symm, e.2.symm⟩
      simp [Change.event, h, h']
  | clear f r =>
    by_cases h : f = field ∧ r = row
    · simp [Change.event, SlotEvent.left, h]
    · have h' : ¬ (field = f ∧ row = r) := fun e => h ⟨e.1.symm, e.2.symm⟩
      simp [Change.event, h, h']
  | drop r =>
    have hne : row ≠ r := by
      rintro rfl
      exact hr (retired_drop hs hc.1)
    simp [Change.event, hne]
  | _ => rfl

theorem slot_after {s : Store} (hs : s.WellFormed) (e : Edit) (field : FieldId) (row : Row)
    (hr : ¬ (e.after s).Retired row) :
    (e.after s).slot field row =
      ((e.event field row s).map SlotEvent.left).getD (s.slot field row) := by
  rw [Edit.event_eq]
  rw [Edit.after_eq] at hr ⊢
  cases h : e.change s with
  | none => rfl
  | some c =>
    simp only [h, Option.map_some, Option.getD_some, Option.bind_some] at hr ⊢
    exact slot_apply_event (Edit.change_allowed h) hs field row hr

theorem WellFormed.after {s : Store} (h : s.WellFormed) (e : Edit) : (e.after s).WellFormed :=
  h.run [e]

/-- What a run leaves in a slot of a row that was not deleted. -/
theorem slot_run {s : Store} (hs : s.WellFormed) (es : List Edit) (field : FieldId) (row : Row)
    (hr : ¬ (s.run es).Retired row) :
    (s.run es).slot field row =
      ((s.history field row es).getLast?.map SlotEvent.left).getD (s.slot field row) := by
  induction es generalizing s with
  | nil => rfl
  | cons e es ih =>
    -- A row retired by the first call would be retired at the end.
    have hafter : ¬ (e.after s).Retired row := fun h => hr (h.run (hs.after e) es)
    have hrun : (s.run (e :: es)).slot field row = ((e.after s).run es).slot field row := rfl
    rw [hrun, ih (hs.after e) hr, slot_after hs e field row hafter, history, List.getLast?_append]
    cases ((e.after s).history field row es).getLast? with
    | some event => rfl
    | none => cases e.event field row s <;> rfl

theorem eq_deleteRow_of_change {e : Edit} {s : Store} {row : Row}
    (h : e.change s = some (.drop row)) : e = .deleteRow row := by
  cases e <;> simp only [Edit.change] at h
  case deleteRow => split at h <;> cases h; rfl
  case copyValue =>
    split at h
    · obtain ⟨bytes, -, hb⟩ := Option.map_eq_some_iff.mp h
      cases hb
    · cases h
  case createRow => cases h
  all_goals split at h <;> cases h

theorem isLive_after {s : Store} {row : Row} (h : s.isLive row = true) {e : Edit}
    (he : e ≠ .deleteRow row) : (e.after s).isLive row = true := by
  rw [Edit.after_eq]
  cases hc : e.change s with
  | none => exact h
  | some c =>
    simp only [Option.map_some, Option.getD_some, isLive_apply]
    cases c with
    | drop r =>
      have hne : row ≠ r := by
        rintro rfl
        exact he (eq_deleteRow_of_change hc)
      simp [h, hne]
    | _ => simp [h]

theorem contains_after {s : Store} {field : FieldId} (h : s.registry.contains field = true)
    (e : Edit) : (e.after s).registry.contains field = true := by
  rcases e.after_cases s with he | ⟨c, -, he⟩
  · rw [he]
    exact h
  · rw [he, registry_apply]
    cases c with
    | declare d =>
      simp only [Registry.contains, Registry.size_append, decide_eq_true_eq] at h ⊢
      omega
    | _ => exact h

theorem WellFormed.slot_next {s : Store} (h : s.WellFormed) (field : FieldId) :
    s.slot field s.rows.allocate.1 = none :=
  h.slot_of_not_live h.next_not_live field

theorem not_retired {s : Store} {row : Row} (h : s.isLive row = true) : ¬ s.Retired row := by
  intro hr
  simp [hr.not_live] at h

/-- What the reads of a slot answer after any run, in terms of its history. A new row has no values,
and gets none but by events of its own. -/
theorem slot_contents_run (config : Config) (es : List Edit) :
    let s := (withConfig config).run es
    (∀ (field : FieldId) (row : Row), s.isLive row = true → s.registry.contains field = true →
      s.getRaw field row =
        .ok (((withConfig config).history field row es).getLast?.bind SlotEvent.left) ∧
      (s.hasValue field row = .ok true ↔ ∃ bytes, s.getRaw field row = .ok (some bytes)) ∧
      (s.hasValue field row = .ok false ↔ s.getRaw field row = .ok none) ∧
      (∃ fields, s.fieldsAt row = .ok fields ∧ fields.Pairwise (·.index < ·.index) ∧
        (field ∈ fields ↔ ∃ bytes, s.getRaw field row = .ok (some bytes))) ∧
      ∀ e : Edit, (e = .createRow ∨ (∃ d, e = .register d) ∨
          (∃ other, other ≠ row ∧ e = .deleteRow other) ∨
          (∃ track frame, e = .addFrame track frame) ∨ ∃ frame, e = .detachFrame frame) →
        (e.after s).getRaw field row = s.getRaw field row) ∧
    ∀ (new : Row) (t : Store), createRow s = .ok new t →
      ∀ (fs : List Edit) (field : FieldId), (t.run fs).isLive new = true →
        (t.run fs).registry.contains field = true → t.history field new fs = [] →
        (t.run fs).getRaw field new = .ok none := by
  intro s
  have hs : s.WellFormed := (wellFormed_withConfig config).run es
  refine ⟨?_, ?_⟩
  · intro field row hlive hfield
    have hindex := hs.index_lt hfield
    have hraw := getRaw_of_live hlive hindex
    have hvalue := hasValue_of_live hlive hindex
    have hhistory := slot_run (wellFormed_withConfig config) es field row (not_retired hlive)
    refine ⟨?_, ?_, ?_, ⟨_, fieldsAt_of_live hlive, pairwise_filledFields s row, ?_⟩, ?_⟩
    · have hempty : (withConfig config).slot field row = none := by simp [slot, withConfig]
      rw [hraw, hhistory, hempty]
      cases ((withConfig config).history field row es).getLast? <;> rfl
    · rw [hvalue, hraw]
      cases s.slot field row <;> simp
    · rw [hvalue, hraw]
      cases s.slot field row <;> simp
    · rw [mem_filledFields, hraw]
      cases s.slot field row <;> simp
    · intro e he
      have hnone : e.event field row s = none := by
        rcases he with rfl | ⟨d, rfl⟩ | ⟨other, -, rfl⟩ | ⟨track, frame, rfl⟩ | ⟨frame, rfl⟩ <;>
          simp [Edit.event]
      have hkept : e ≠ .deleteRow row := by
        rintro rfl
        simp at he
      have hafter := isLive_after hlive hkept
      rw [hraw, getRaw_of_live hafter ((hs.after e).index_lt (contains_after hfield e)),
        slot_after hs e field row (not_retired hafter), hnone]
      rfl
  · intro new t ht fs field hlive hfield hquiet
    obtain ⟨hnew, hcreated⟩ : new = s.rows.allocate.1 ∧ t = Change.issue.apply s := by
      rw [createRow_apply] at ht
      cases ht
      exact ⟨rfl, rfl⟩
    have hw : t.WellFormed := hcreated ▸ hs.apply trivial
    have hempty : t.slot field new = none := by
      rw [hnew, hcreated]
      exact hs.slot_next field
    rw [getRaw_of_live hlive ((hw.run fs).index_lt hfield),
      slot_run hw fs field new (not_retired hlive), hquiet, hempty]
    rfl

end Store
end TrackStore
