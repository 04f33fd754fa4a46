import TrackStore.Proofs.Run
import TrackStore.Row.Allocator

/-! # The effect of a change

What each elementary change does to the live rows, to the slots, to the frames and to the owners,
one equation for each of them over all changes. Nothing else looks into a change.
-/
namespace TrackStore.Store

theorem rows_drop (s : Store) (row : Row) : (s.drop row).rows = (s.rows.release row).2 := by
  simp [drop, purge]

theorem rows_apply (s : Store) (c : Change) :
    (c.apply s).rows = match c with
      | .issue => s.rows.allocate.2
      | .drop row => (s.rows.release row).2
      | _ => s.rows := by
  cases c with
  | leave frame => exact rows_leave s frame
  | drop row => exact rows_drop s row
  | _ => rfl

theorem isLive_apply (s : Store) (c : Change) (row : Row) :
    (c.apply s).isLive row = match c with
      | .issue => s.isLive row || decide (row = s.rows.allocate.1)
      | .drop dropped => s.isLive row && !decide (row = dropped)
      | _ => s.isLive row := by
  unfold isLive
  rw [rows_apply]
  cases c with
  | issue => exact RowAllocator.isLive_allocate s.rows row
  | drop dropped => exact RowAllocator.isLive_release s.rows dropped row
  | _ => rfl

theorem slot_modifyColumn (s : Store) (field other : FieldId) (row : Row) (f : Column → Column) :
    (s.modifyColumn field f).slot other row =
      if other = field then s.columns[field.index]?.bind (fun c => (f c)[row]?)
      else s.slot other row := by
  simp only [slot, modifyColumn, Array.getElem?_modify]
  by_cases h : other = field
  · subst h
    cases s.columns[other.index]? <;> simp
  · have hi : field.index ≠ other.index := fun e => h (by cases field; cases other; simp_all)
    simp [h, hi]

theorem slot_write {s : Store} {field : FieldId} (hf : field.index < s.columns.size)
    (other : FieldId) (written row : Row) (bytes : Bytes) :
    (s.modifyColumn field (·.insert written bytes)).slot other row =
      if other = field ∧ row = written then some bytes else s.slot other row := by
  rw [slot_modifyColumn]
  by_cases ho : other = field
  · subst ho
    simp only [Array.getElem?_eq_getElem hf, Option.bind_some, Std.ExtTreeMap.getElem?_insert,
      Std.LawfulEqCmp.compare_eq_iff_eq, slot, true_and, if_true, @eq_comm _ row]
  · simp [ho]

theorem slot_clear (s : Store) (field other : FieldId) (cleared row : Row) :
    (s.modifyColumn field (·.erase cleared)).slot other row =
      if other = field ∧ row = cleared then none else s.slot other row := by
  rw [slot_modifyColumn]
  by_cases ho : other = field
  · subst ho
    cases hc : s.columns[other.index]? with
    | none => simp [slot, hc]
    | some c =>
      simp only [Option.bind_some, Std.ExtTreeMap.getElem?_erase, Std.LawfulEqCmp.compare_eq_iff_eq,
        slot, hc, true_and, if_true, @eq_comm _ row]
  · simp [ho]

theorem slot_purge (s : Store) (purged row : Row) (field : FieldId) :
    (s.purge purged).slot field row = if row = purged then none else s.slot field row := by
  simp only [slot, purge, Array.getElem?_map]
  cases s.columns[field.index]? with
  | none => simp
  | some c =>
    simp only [Option.map_some, Option.bind_some, Std.ExtTreeMap.getElem?_erase,
      Std.LawfulEqCmp.compare_eq_iff_eq, @eq_comm _ row]

theorem slot_drop (s : Store) (dropped row : Row) (field : FieldId) :
    (s.drop dropped).slot field row = if row = dropped then none else s.slot field row := by
  rw [← slot_purge]
  simp [slot, drop]

theorem slot_declare (s : Store) (d : FieldDescriptor) (field : FieldId) (row : Row) :
    (Change.apply s (.declare d)).slot field row = s.slot field row := by
  simp only [slot, Change.apply, Array.getElem?_push]
  by_cases h : field.index = s.columns.size
  · simp [h]
  · simp [h]

/-- A change touches the slot that it names, and the slots of a dropped row. -/
theorem slot_apply (s : Store) (c : Change) (field : FieldId) (row : Row) : c.Allowed s →
    (c.apply s).slot field row = match c with
      | .write f r bytes => if field = f ∧ row = r then some bytes else s.slot field row
      | .clear f r => if field = f ∧ row = r then none else s.slot field row
      | .drop r => if row = r then none else s.slot field row
      | _ => s.slot field row := by
  intro hc
  cases c with
  | issue => rfl
  | declare d => exact slot_declare s d field row
  | write f r bytes => exact slot_write hc.2 field r row bytes
  | clear f r => exact slot_clear s f field r row
  | join track frame => rfl
  | leave frame => simp only [Change.apply, slot, columns_leave]
  | drop r => exact slot_drop s r row field

theorem config_apply (s : Store) (c : Change) : (c.apply s).config = s.config := by
  cases c with
  | leave frame => exact config_leave s frame
  | drop row => simp [Change.apply, drop, purge]
  | _ => rfl

theorem registry_apply (s : Store) (c : Change) :
    (c.apply s).registry = match c with
      | .declare d => s.registry.append d
      | _ => s.registry := by
  cases c with
  | leave frame => exact registry_leave s frame
  | drop row => simp [Change.apply, drop, purge]
  | _ => rfl

theorem size_columns_apply (s : Store) (c : Change) :
    (c.apply s).columns.size = match c with
      | .declare _ => s.columns.size + 1
      | _ => s.columns.size := by
  cases c with
  | leave frame => simp [Change.apply]
  | drop row => simp [Change.apply, drop, purge]
  | _ => simp [Change.apply, modifyColumn, join]

theorem framesOf_drop {s : Store} {row : Row} (h : s.framesOf row = []) (other : Row) :
    (s.drop row).framesOf other = (s.leave row).framesOf other := by
  have hleave : ((s.purge row).leave row).framesOf other = (s.leave row).framesOf other :=
    (framesOf_leave (s.purge row) row other).trans (framesOf_leave s row other).symm
  rw [← hleave]
  by_cases hr : other = row
  · subst hr
    have hempty : ((s.purge other).leave other).framesOf other = [] := by
      rw [hleave, framesOf_leave]
      split <;> simp [h]
    rw [hempty]
    simp [framesOf, drop]
  · simp [framesOf, drop, Std.ExtTreeMap.getD_erase, Ne.symm hr]

theorem owners_drop (s : Store) (row other : Row) :
    (s.drop row).owners[other]? = if other = row then none else s.owners[other]? := by
  simp only [drop, owners_leave]
  rfl

theorem owners_apply (s : Store) (c : Change) (row : Row) :
    (c.apply s).owners[row]? = match c with
      | .join track frame => if row = frame then some track else s.owners[row]?
      | .leave frame | .drop frame => if row = frame then none else s.owners[row]?
      | _ => s.owners[row]? := by
  cases c with
  | join track frame => exact owners_join s track frame row
  | leave frame => exact owners_leave s frame row
  | drop dropped => exact owners_drop s dropped row
  | _ => rfl

/-- The rows with a list of frames, an empty one included. -/
theorem mem_frames_apply (s : Store) (c : Change) (row : Row) :
    row ∈ (c.apply s).frames ↔ match c with
      | .join track _ => row = track ∨ row ∈ s.frames
      | .drop dropped => row ≠ dropped ∧ row ∈ s.frames
      | _ => row ∈ s.frames := by
  have hleave (t : Store) (frame : Row) : row ∈ (t.leave frame).frames ↔ row ∈ t.frames := by
    unfold leave
    split <;> simp [Std.ExtTreeMap.mem_modify]
  cases c with
  | join track frame =>
    simp only [Change.apply, join, Std.ExtTreeMap.mem_insert, Std.LawfulEqCmp.compare_eq_iff_eq,
      @eq_comm _ row]
  | leave frame => exact hleave s frame
  | drop dropped =>
    simp only [Change.apply, drop, Std.ExtTreeMap.mem_erase, hleave, ne_eq,
      Std.LawfulEqCmp.compare_eq_iff_eq, @eq_comm _ row]
    rfl
  | _ => rfl

/-- Two stores that differ in nothing but the contents of their columns. -/
structure SameTables (s t : Store) : Prop where
  config : t.config = s.config
  rows : t.rows = s.rows
  registry : t.registry = s.registry
  frames : t.frames = s.frames
  owners : t.owners = s.owners
  columns : t.columns.size = s.columns.size

namespace SameTables

variable {s t u : Store}

theorem refl (s : Store) : SameTables s s := ⟨rfl, rfl, rfl, rfl, rfl, rfl⟩

theorem trans (h : SameTables s t) (h' : SameTables t u) : SameTables s u where
  config := h'.config.trans h.config
  rows := h'.rows.trans h.rows
  registry := h'.registry.trans h.registry
  frames := h'.frames.trans h.frames
  owners := h'.owners.trans h.owners
  columns := h'.columns.trans h.columns

theorem isLive (h : SameTables s t) (row : Row) : t.isLive row = s.isLive row := by
  rw [Store.isLive, Store.isLive, h.rows]

theorem framesOf (h : SameTables s t) (track : Row) : t.framesOf track = s.framesOf track := by
  rw [Store.framesOf, Store.framesOf, h.frames]

theorem symm (h : SameTables s t) : SameTables t s where
  config := h.config.symm
  rows := h.rows.symm
  registry := h.registry.symm
  frames := h.frames.symm
  owners := h.owners.symm
  columns := h.columns.symm

/-- Stores are one if their columns hold the same, too. -/
theorem eq_of_slots (h : SameTables s t)
    (hslot : ∀ field row, t.slot field row = s.slot field row) : t = s := by
  have hcolumns : t.columns = s.columns := by
    refine Array.ext h.columns fun i ht hs => Std.ExtTreeMap.ext_getElem? fun row => ?_
    have hrow := hslot ⟨i⟩ row
    simpa only [slot, Array.getElem?_eq_getElem ht, Array.getElem?_eq_getElem hs,
      Option.bind_some] using hrow
  obtain ⟨config, rows, registry, columns, frames, owners⟩ := s
  obtain ⟨hconfig, hrows, hregistry, hframes, howners, -⟩ := h
  cases t
  simp_all only

theorem modifyColumn (s : Store) (field : FieldId) (f : Column → Column) :
    SameTables s (s.modifyColumn field f) :=
  ⟨rfl, rfl, rfl, rfl, rfl, by simp [Store.modifyColumn]⟩

end SameTables

end TrackStore.Store
