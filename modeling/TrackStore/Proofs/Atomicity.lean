import TrackStore.Proofs.WellFormed

/-! # Calls that change nothing

A call that is refused leaves the store as it was. So does a call that succeeds and has nothing to
do, and no other: an allowed change shows in the table that it is made to.
-/
namespace TrackStore

/-- The change writes what is there already. -/
def Change.Idle (s : Store) : Change → Prop
  | write field row bytes => s.slot field row = some bytes
  | clear field row => s.slot field row = none
  | leave frame => s.owners[frame]? = none
  | _ => False

/-- The call is not refused and has nothing to do. -/
def Edit.Idle (s : Store) : Edit → Prop
  | createRow => False
  | deleteRow row =>
    s.isLive row = false ∧ s.rows.wasIssued row = true ∧ s.config.doubleDelete = .ignore
  | register d => ∃ field known,
    s.lookupField d.name = some field ∧ s.describeField field = .ok known ∧ known.type = d.type
  | setRaw field row bytes => s.getRaw field row = .ok (some bytes)
  | setValue t field row v =>
    s.checkType t field = .ok () ∧ s.getRaw field row = .ok (some (t.encode v))
  | removeAt field row => s.getRaw field row = .ok none
  | copyValue field src dst => ∃ stored present, s.getRaw field src = .ok stored ∧
    s.getRaw field dst = .ok present ∧ (stored = none ∨ stored = present)
  | addFrame track frame => s.owningTrack frame = .ok (some track)
  | detachFrame frame => s.owningTrack frame = .ok none

namespace Store

theorem insert_eq_self {column : Column} {row : Row} {bytes : Bytes}
    (h : column[row]? = some bytes) : column.insert row bytes = column := by
  refine Std.ExtTreeMap.ext_getElem? fun other => ?_
  rw [Std.ExtTreeMap.getElem?_insert]
  split
  next he => rw [← Std.LawfulEqCmp.compare_eq_iff_eq.mp he, h]
  next => rfl

theorem erase_eq_self {β : Type} {table : Std.ExtTreeMap Row β} {row : Row}
    (h : table[row]? = none) : table.erase row = table := by
  refine Std.ExtTreeMap.ext_getElem? fun other => ?_
  rw [Std.ExtTreeMap.getElem?_erase]
  split
  next he => rw [← Std.LawfulEqCmp.compare_eq_iff_eq.mp he, h]
  next => rfl

theorem modifyColumn_eq_self {s : Store} {field : FieldId} {f : Column → Column}
    (h : ∀ c, s.columns[field.index]? = some c → f c = c) : s.modifyColumn field f = s := by
  have hcolumns : s.columns.modify field.index f = s.columns := by
    refine Array.ext_getElem? fun i => ?_
    rw [Array.getElem?_modify]
    split
    next hi =>
      subst hi
      cases hc : s.columns[field.index]? with
      | none => rfl
      | some c => rw [Option.map_some, h c hc]
    next => rfl
  rw [modifyColumn, hcolumns]

/-- A change that is allowed and not idle shows: in the rows, in the number of fields, in the slot
that it names, or in the owners. -/
theorem apply_eq_self_iff {s : Store} {c : Change} (hc : c.Allowed s) :
    c.apply s = s ↔ c.Idle s := by
  constructor
  · intro h
    cases c with
    | issue =>
      have hnext : s.rows.next + 1 = s.rows.next := congrArg (·.rows.next) h
      omega
    | declare d =>
      have hsize : (s.registry.append d).size = s.registry.size := congrArg (·.registry.size) h
      rw [Registry.size_append] at hsize
      omega
    | write field row bytes =>
      have hslot := slot_apply s _ field row hc
      rw [h] at hslot
      exact hslot.trans (if_pos ⟨rfl, rfl⟩)
    | clear field row =>
      have hslot := slot_apply s _ field row hc
      rw [h] at hslot
      exact hslot.trans (if_pos ⟨rfl, rfl⟩)
    | join track frame =>
      have howner := owners_apply s (.join track frame) frame
      rw [h, hc.2.2.2.1] at howner
      simp at howner
    | leave frame =>
      have howner := owners_apply s (.leave frame) frame
      rw [h] at howner
      exact howner.trans (if_pos rfl)
    | drop row =>
      have hlive := isLive_apply s (.drop row) row
      rw [h, hc.1] at hlive
      simp at hlive
  · intro h
    cases c with
    | write field row bytes =>
      refine modifyColumn_eq_self fun c hcol => insert_eq_self ?_
      rw [← slot_of_column ((column_eq_ok ..).mpr hcol)]
      exact h
    | clear field row =>
      refine modifyColumn_eq_self fun c hcol => erase_eq_self ?_
      rw [← slot_of_column ((column_eq_ok ..).mpr hcol)]
      exact h
    | leave frame =>
      have hnone : s.owners[frame]? = none := h
      simp only [Change.apply, leave, hnone]
    | _ => exact h.elim

section Checks
variable {s : Store} {field : FieldId} {row : Row}

theorem getRaw_of_columnAt {column : Column} (h : s.columnAt field row = .ok column) :
    s.getRaw field row = .ok (s.slot field row) := by
  obtain ⟨hlive, hcol⟩ := (columnAt_eq_ok ..).mp h
  exact getRaw_of_live hlive (Array.getElem?_eq_some_iff.mp hcol).1

theorem getRaw_of_columnAt_error {e : Error} (h : s.columnAt field row = .error e) :
    s.getRaw field row = .error e := by
  simp [getRaw, h, bind, Except.bind]

theorem mayDelete_eq_false : s.mayDelete row = .ok false ↔
    s.isLive row = false ∧ s.rows.wasIssued row = true ∧ s.config.doubleDelete = .ignore := by
  unfold mayDelete
  cases s.isLive row with
  | true => by_cases hf : s.framesOf row = [] <;> simp [hf]
  | false =>
    cases s.rows.wasIssued row with
    | false => simp
    | true => cases s.config.doubleDelete <;> simp

/-- A frame has a live owner other than itself, so the checks before that of the owner pass. -/
theorem mayJoin_eq_false (hs : s.WellFormed) {track frame : Row} :
    s.mayJoin track frame = .ok false ↔ s.owningTrack frame = .ok (some track) := by
  rw [owningTrack_eq_ok]
  constructor
  · intro h
    obtain ⟨htrack, hframe, hne⟩ := live_of_mayJoin h
    rw [mayJoin_of_live htrack hframe hne] at h
    refine ⟨hframe, ?_⟩
    cases ho : s.owners[frame]? with
    | none => simp only [ho] at h; split at h <;> cases h
    | some owner =>
      simp only [ho] at h
      split at h
      next hown => exact congrArg some hown
      next => cases h
  · rintro ⟨hframe, ho⟩
    have htrack := (hs.membership.owner_live track frame ho).2
    have hne : track ≠ frame := by
      rintro rfl
      exact hs.membership.self_ne track ho
    rw [mayJoin_of_live htrack hframe hne, ho]
    exact if_pos rfl

theorem register_eq_known_iff {d : FieldDescriptor} :
    (∃ field registry, s.registry.register d = .ok ((field, false), registry)) ↔
      ∃ field known, s.lookupField d.name = some field ∧ s.describeField field = .ok known ∧
        known.type = d.type := by
  constructor
  · rintro ⟨field, registry, h⟩
    obtain ⟨hfield, ⟨known, hknown, htype⟩, -⟩ := (Registry.register_eq_known ..).mp h
    exact ⟨field, known, hfield, hknown, htype⟩
  · rintro ⟨field, known, hfield, hknown, htype⟩
    exact ⟨field, s.registry,
      (Registry.register_eq_known ..).mpr ⟨hfield, ⟨known, hknown, htype⟩, rfl⟩⟩

end Checks

end Store

namespace Edit

theorem perform_error {e : Edit} {s t : Store} {err : Error} (h : e.perform s = .error err t) :
    t = s := by
  rw [perform_eq] at h
  cases hv : e.verdict s <;> rw [hv] at h <;> cases h
  rfl

theorem perform_ok {e : Edit} {s t : Store} {answer : e.Answer} (h : e.perform s = .ok answer t) :
    t = ((e.change s).map (·.apply s)).getD s := by
  rw [← after_eq, after, h]

/-- A call that is answered leaves the store as it was exactly if the change that it makes is idle,
or there is none. -/
theorem perform_eq_self_iff {e : Edit} {s : Store} :
    (∃ answer, e.perform s = .ok answer s) ↔
      e.succeeds s = true ∧ ∀ c, e.change s = some c → c.Idle s := by
  constructor
  · rintro ⟨answer, h⟩
    refine ⟨by rw [succeeds, h], fun c hc => ?_⟩
    have hself := perform_ok h
    rw [hc, Option.map_some, Option.getD_some] at hself
    exact (Store.apply_eq_self_iff (change_allowed hc)).mp hself.symm
  · rintro ⟨hok, hidle⟩
    cases h : e.perform s with
    | error err t => simp [succeeds, h] at hok
    | ok answer t =>
      refine ⟨answer, ?_⟩
      have ht := perform_ok h
      cases hc : e.change s with
      | none => rw [ht, hc]; rfl
      | some c =>
        have hself := (Store.apply_eq_self_iff (change_allowed hc)).mpr (hidle c hc)
        rw [ht, hc, Option.map_some, Option.getD_some, hself]

/-- The call is idle exactly if it is answered and the change that it makes is idle, or none. -/
theorem idle_iff {e : Edit} {s : Store} (hs : s.WellFormed) :
    e.Idle s ↔ e.succeeds s = true ∧ ∀ c, e.change s = some c → c.Idle s := by
  cases e with
  | createRow => simp [Idle, change, Change.Idle]
  | deleteRow row =>
    rw [Idle, ← Store.mayDelete_eq_false, succeeds, perform, Store.deleteRow_apply, change]
    rcases s.mayDelete row with e | (_ | _) <;> simp [Change.Idle]
  | register d =>
    rw [Idle, ← Store.register_eq_known_iff, succeeds, perform, Store.register_apply, change]
    rcases s.registry.register d with e | ⟨⟨field, _ | _⟩, registry⟩ <;> simp [Change.Idle]
  | setRaw field row bytes =>
    rw [Idle, succeeds, perform, Store.setRaw_apply, change]
    cases hc : s.columnAt field row with
    | error e => simp [Store.getRaw_of_columnAt_error hc]
    | ok column => simp [Store.getRaw_of_columnAt hc, Change.Idle]
  | setValue t field row v =>
    rw [Idle, succeeds, perform, Store.setValue_apply, Store.setRaw_apply, change]
    cases ht : s.checkType t field with
    | error e => simp
    | ok _ =>
      cases hc : s.columnAt field row with
      | error e => simp [Store.getRaw_of_columnAt_error hc]
      | ok column => simp [Store.getRaw_of_columnAt hc, Change.Idle]
  | removeAt field row =>
    rw [Idle, succeeds, perform, Store.removeAt_apply, Store.hasValue, change]
    cases hc : s.columnAt field row with
    | error e => simp [Store.getRaw_of_columnAt_error hc, bind, Except.bind]
    | ok column =>
      simp [Store.getRaw_of_columnAt hc, Change.Idle, bind, Except.bind, pure, Except.pure]
  | copyValue field src dst =>
    rw [Idle, succeeds, perform, Store.copyValue_apply, change]
    cases hsrc : s.checkRow src with
    | error e =>
      have hcol : s.columnAt field src = .error e := by
        simp [Store.columnAt, hsrc, bind, Except.bind]
      simp [Store.getRaw_of_columnAt_error hcol]
    | ok _ =>
      cases hdst : s.columnAt field dst with
      | error e => simp [Store.getRaw_of_columnAt_error hdst]
      | ok column =>
        have hcol := (Store.column_eq_ok ..).mpr ((Store.columnAt_eq_ok ..).mp hdst).2
        have hsame : s.columnAt field src = .ok column := by
          simp [Store.columnAt, hsrc, hcol, bind, Except.bind]
        have hslot : column[src]? = s.slot field src := (Store.slot_of_column hcol src).symm
        simp only [Store.getRaw_of_columnAt hsame, Store.getRaw_of_columnAt hdst, hslot]
        cases s.slot field src <;> simp [Change.Idle, eq_comm]
  | addFrame track frame =>
    rw [Idle, ← Store.mayJoin_eq_false hs, succeeds, perform, Store.addFrame_apply, change]
    rcases s.mayJoin track frame with e | (_ | _) <;> simp [Change.Idle]
  | detachFrame frame =>
    rw [Idle, succeeds, perform, Store.detachFrame_apply, Store.owningTrack, change]
    cases s.checkRow frame with
    | error e => simp [bind, Except.bind]
    | ok _ => simp [bind, Except.bind, pure, Except.pure, Change.Idle]

end Edit

namespace Store

/-- A call that is refused changes nothing. A call that is answered changes nothing exactly if it
has nothing to do. -/
theorem perform_atomic {s : Store} (hs : s.Reachable) (e : Edit) :
    (∀ err t, e.perform s = .error err t → t = s) ∧
      ((∃ answer, e.perform s = .ok answer s) ↔ e.Idle s) :=
  ⟨fun _ _ => Edit.perform_error, Edit.perform_eq_self_iff.trans (Edit.idle_iff hs.wellFormed).symm⟩

theorem perform_atomic_owned :
    let s := (withConfig { initialRowCapacity := 0 }).run
      [.createRow, .createRow, .createRow, .addFrame ⟨1⟩ ⟨3⟩]
    (∃ t, addFrame ⟨2⟩ ⟨3⟩ s = .error (.frameOwnership ⟨3⟩ ⟨1⟩) t ∧ t = s) ∧
      addFrame ⟨1⟩ ⟨3⟩ s = .ok () s := by
  intro s
  have hs : s.Reachable := ⟨_, _, rfl⟩
  have hjoin : s.mayJoin ⟨2⟩ ⟨3⟩ = .error (.frameOwnership ⟨3⟩ ⟨1⟩) := by decide
  have hrefused : addFrame ⟨2⟩ ⟨3⟩ s = .error (.frameOwnership ⟨3⟩ ⟨1⟩) s := by
    rw [addFrame_apply, hjoin]
  have howner : s.owningTrack ⟨3⟩ = .ok (some ⟨1⟩) := by decide
  obtain ⟨_, hidle⟩ := (perform_atomic hs (.addFrame ⟨1⟩ ⟨3⟩)).2.mpr howner
  exact ⟨⟨s, hrefused, (perform_atomic hs (.addFrame ⟨2⟩ ⟨3⟩)).1 _ _ hrefused⟩, hidle⟩

end Store
end TrackStore
