import TrackStore.Proofs.Deletion
import TrackStore.Store.Basic
import Mathlib.Data.List.Sort

/-! # Stores that are alike

Two stores are alike when they differ in nothing but the room of their bitmaps and those settings
that no coordinate is judged by. What is read of one is then read of the other, and a change that is
made to both keeps them alike.
-/
namespace TrackStore

/-- The same members, whatever the room. -/
structure Bitmap.Same (b c : Bitmap) : Prop where
  contains : ∀ id, b.contains id = c.contains id
  count : b.count = c.count

/-- The same rows issued and the same of them live. -/
structure RowAllocator.Same (a b : RowAllocator) : Prop where
  next : a.next = b.next
  live : a.live.Same b.live

namespace Bitmap

theorem same_withCapacity (room other : Nat) : (withCapacity room).Same (withCapacity other) where
  contains id := by rw [contains_withCapacity, contains_withCapacity]
  count := rfl

namespace Same

variable {b c : Bitmap}

theorem insert (h : b.Same c) (id : Nat) : (b.insert id).Same (c.insert id) where
  contains i := by rw [contains_insert, contains_insert, h.contains]
  count := by rw [count_insert, count_insert, h.contains, h.count]

theorem erase (h : b.Same c) (id : Nat) : (b.erase id).2.Same (c.erase id).2 where
  contains i := by rw [contains_erase, contains_erase, h.contains]
  count := by rw [count_erase, count_erase, h.contains, h.count]

/-- Both lists ascend and have the same members. -/
theorem toList (h : b.Same c) : b.toList = c.toList := by
  refine b.pairwise_toList.eq_of_mem_iff c.pairwise_toList fun id => ?_
  rw [mem_toList, mem_toList, h.contains]

end Same

end Bitmap

namespace RowAllocator

theorem same_withCapacity (rows other : Nat) : (withCapacity rows).Same (withCapacity other) :=
  ⟨rfl, Bitmap.same_withCapacity _ _⟩

namespace Same

variable {a b : RowAllocator}

theorem fst_allocate (h : a.Same b) : a.allocate.1 = b.allocate.1 := congrArg Row.mk h.next

theorem allocate (h : a.Same b) : a.allocate.2.Same b.allocate.2 where
  next := congrArg (· + 1) h.next
  live := by
    have hinsert := h.live.insert a.next
    simp only [RowAllocator.allocate, ← h.next]
    exact hinsert

theorem release (h : a.Same b) (row : Row) : (a.release row).2.Same (b.release row).2 :=
  ⟨h.next, h.live.erase row.id⟩

theorem isLive (h : a.Same b) (row : Row) : a.isLive row = b.isLive row := h.live.contains row.id

theorem wasIssued (h : a.Same b) (row : Row) : a.wasIssued row = b.wasIssued row := by
  rw [RowAllocator.wasIssued, RowAllocator.wasIssued, h.next]

theorem liveRows (h : a.Same b) : a.liveRows = b.liveRows := congrArg (·.map Row.mk) h.live.toList

end Same

end RowAllocator

namespace Store

/-- The stores differ in the room of their bitmaps and in settings that no coordinate is judged by,
and in nothing else. -/
structure Alike (cs : Config × Config) (s t : Store) : Prop where
  wellFormed : s.WellFormed
  config_left : s.config = cs.1
  config_right : t.config = cs.2
  validates : cs.1.validateCoordinates = cs.2.validateCoordinates
  rows : s.rows.Same t.rows
  registry : s.registry = t.registry
  columns : s.columns = t.columns
  frames : s.frames = t.frames
  owners : s.owners = t.owners

theorem alike_withConfig {cs : Config × Config}
    (h : cs.1.validateCoordinates = cs.2.validateCoordinates) :
    Alike cs (withConfig cs.1) (withConfig cs.2) where
  wellFormed := wellFormed_withConfig cs.1
  config_left := rfl
  config_right := rfl
  validates := h
  rows := RowAllocator.same_withCapacity _ _
  registry := rfl
  columns := rfl
  frames := rfl
  owners := rfl

/-- Leaving a track looks at the owners and the frames only. -/
theorem leave_congr {s t : Store} (hframes : s.frames = t.frames) (howners : s.owners = t.owners)
    (frame : Row) :
    (s.leave frame).frames = (t.leave frame).frames ∧
      (s.leave frame).owners = (t.leave frame).owners := by
  rw [leave, leave, ← howners]
  cases s.owners[frame]? with
  | none => exact ⟨hframes, howners⟩
  | some track => exact ⟨by simp only [hframes], rfl⟩

namespace Alike

variable {cs : Config × Config} {s t : Store}

section Reads
variable (h : Alike cs s t)
include h

theorem isLive (row : Row) : s.isLive row = t.isLive row := h.rows.isLive row

theorem retired_iff (row : Row) : s.Retired row ↔ t.Retired row := by
  have hissued := h.rows.wasIssued row
  have hlive := h.isLive row
  constructor
  · rintro ⟨hi, hl⟩
    exact ⟨hissued ▸ hi, hlive ▸ hl⟩
  · rintro ⟨hi, hl⟩
    exact ⟨hissued ▸ hi, hlive ▸ hl⟩

theorem liveRows : s.liveRows = t.liveRows := h.rows.liveRows

theorem stats : s.stats = t.stats := by
  simp only [Store.stats, RowAllocator.liveCount, RowAllocator.issued, h.rows.next,
    h.rows.live.count, h.registry, h.columns, h.frames]

theorem checkRow (row : Row) : s.checkRow row = t.checkRow row := by
  rw [Store.checkRow, Store.checkRow, h.isLive]

theorem lookupField (name : String) : s.lookupField name = t.lookupField name := by
  rw [Store.lookupField, Store.lookupField, h.registry]

theorem describeField (field : FieldId) : s.describeField field = t.describeField field := by
  rw [Store.describeField, Store.describeField, h.registry]

theorem column (field : FieldId) : s.column field = t.column field := by
  rw [Store.column, Store.column, h.columns]

theorem columnAt (field : FieldId) (row : Row) : s.columnAt field row = t.columnAt field row := by
  rw [Store.columnAt, Store.columnAt, h.checkRow, h.column]

theorem getRaw (field : FieldId) (row : Row) : s.getRaw field row = t.getRaw field row := by
  rw [Store.getRaw, Store.getRaw, h.columnAt]

theorem hasValue (field : FieldId) (row : Row) : s.hasValue field row = t.hasValue field row := by
  rw [Store.hasValue, Store.hasValue, h.columnAt]

theorem fieldsAt (row : Row) : s.fieldsAt row = t.fieldsAt row := by
  rw [Store.fieldsAt, Store.fieldsAt, h.checkRow, h.columns]

theorem checkType (ty : FieldType) (field : FieldId) :
    s.checkType ty field = t.checkType ty field := by
  rw [Store.checkType, Store.checkType, h.describeField]

theorem getValue (ty : FieldType) (field : FieldId) (row : Row) :
    s.getValue ty field row = t.getValue ty field row := by
  rw [Store.getValue, Store.getValue, h.checkType, h.getRaw]

theorem lookupIn (listing : Column → List (Row × Bytes)) (ty : FieldType) (field : FieldId)
    (v : ty.Value) : s.lookupIn listing ty field v = t.lookupIn listing ty field v := by
  rw [Store.lookupIn, Store.lookupIn, h.checkType, h.column]

theorem framesOf (track : Row) : s.framesOf track = t.framesOf track := by
  rw [Store.framesOf, Store.framesOf, h.frames]

theorem framesAt (track : Row) : s.framesAt track = t.framesAt track := by
  rw [Store.framesAt, Store.framesAt, h.checkRow, h.framesOf]

theorem owningTrack (frame : Row) : s.owningTrack frame = t.owningTrack frame := by
  rw [Store.owningTrack, Store.owningTrack, h.checkRow, h.owners]

theorem mayJoin (track frame : Row) : s.mayJoin track frame = t.mayJoin track frame := by
  simp only [Store.mayJoin, h.checkRow, h.owners, h.framesOf]

/-- The settings are looked at only where a row is deleted that was deleted before. -/
theorem mayDelete {row : Row} (hr : ¬ s.Retired row) : s.mayDelete row = t.mayDelete row := by
  rw [Store.mayDelete, Store.mayDelete, ← h.isLive, ← h.rows.wasIssued, ← h.framesOf]
  cases hlive : s.isLive row with
  | true => rfl
  | false =>
    cases hissued : s.rows.wasIssued row with
    | false => rfl
    | true => exact absurd ⟨hissued, hlive⟩ hr

end Reads

theorem modifyColumn (h : Alike cs s t) (field : FieldId) (f : Column → Column) :
    (s.modifyColumn field f).columns = (t.modifyColumn field f).columns := by
  simp only [Store.modifyColumn, h.columns]

theorem apply (h : Alike cs s t) {c : Change} (hc : c.Allowed s) :
    Alike cs (c.apply s) (c.apply t) := by
  constructor
  case wellFormed => exact h.wellFormed.apply hc
  case config_left => exact (config_apply s c).trans h.config_left
  case config_right => exact (config_apply t c).trans h.config_right
  case validates => exact h.validates
  case rows =>
    rw [rows_apply, rows_apply]
    cases c with
    | issue => exact h.rows.allocate
    | drop row => exact h.rows.release row
    | _ => exact h.rows
  case registry => rw [registry_apply, registry_apply, h.registry]
  case columns =>
    cases c with
    | declare d => exact congrArg (·.push ∅) h.columns
    | write field row bytes => exact h.modifyColumn field _
    | clear field row => exact h.modifyColumn field _
    | leave frame => simp only [Change.apply, columns_leave, h.columns]
    | drop row => simp [Change.apply, drop, purge, h.columns]
    | _ => exact h.columns
  case frames =>
    cases c with
    | join track frame => simp only [Change.apply, join, h.frames, h.framesOf]
    | leave frame => exact (leave_congr h.frames h.owners frame).1
    | drop row =>
      have hleave := leave_congr (s := s.purge row) (t := t.purge row) h.frames h.owners row
      exact congrArg (·.erase row) hleave.1
    | _ => exact h.frames
  case owners =>
    cases c with
    | join track frame => simp only [Change.apply, join, h.owners]
    | leave frame => exact (leave_congr h.frames h.owners frame).2
    | drop row => exact (leave_congr (s := s.purge row) (t := t.purge row) h.frames h.owners row).2
    | _ => exact h.owners

end Alike

end Store
end TrackStore
