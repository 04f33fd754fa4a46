import Mathlib.Data.List.Induction
import TrackStore.Proofs.Attach.Reference

/-! # Coordinates written one after the other

The stores that a walk passes through. Everything that the walk writes goes to one field of
coordinates, and everything that it reads is in fields of other types, so what it reads halfway is
what the store held at the start.
-/
namespace TrackStore

namespace Store

/-- The store with coordinates written into a field, one after the other. -/
def writeAll (s : Store) (field : FieldId) (ws : List (Row × Coordinate)) : Store :=
  ws.foldl (fun s w => s.modifyColumn field (·.insert w.1 (FieldType.encode .coordinate w.2))) s

section Writes
variable (s : Store) (field : FieldId) (ws : List (Row × Coordinate))

theorem writeAll_concat (w : Row × Coordinate) :
    s.writeAll field (ws ++ [w]) =
      (s.writeAll field ws).modifyColumn field
        (·.insert w.1 (FieldType.encode .coordinate w.2)) := by
  simp [writeAll]

theorem sameTables_writeAll : SameTables s (s.writeAll field ws) := by
  induction ws using List.reverseRecOn with
  | nil => exact .refl s
  | append_singleton ws w ih =>
    rw [writeAll_concat]
    exact ih.trans (.modifyColumn ..)

theorem isLive_writeAll (row : Row) : (s.writeAll field ws).isLive row = s.isLive row :=
  (sameTables_writeAll ..).isLive row

theorem framesOf_writeAll (track : Row) :
    (s.writeAll field ws).framesOf track = s.framesOf track :=
  (sameTables_writeAll ..).framesOf track

theorem framesAt_writeAll {s : Store} {track : Row} (hlive : s.isLive track = true)
    (field : FieldId) (ws : List (Row × Coordinate)) :
    (s.writeAll field ws).framesAt track = .ok (s.framesOf track) := by
  rw [framesAt_eq_ok, isLive_writeAll, framesOf_writeAll]
  exact ⟨hlive, rfl⟩

theorem checkType_writeAll (t : FieldType) (other : FieldId) :
    (s.writeAll field ws).checkType t other = s.checkType t other := by
  rw [checkType, checkType, describeField, describeField, (sameTables_writeAll ..).registry]

variable {s field}

theorem slot_writeAll_concat (hf : field.index < s.columns.size) (w : Row × Coordinate)
    (other : FieldId) (row : Row) :
    (s.writeAll field (ws ++ [w])).slot other row =
      if other = field ∧ row = w.1 then some (FieldType.encode .coordinate w.2)
      else (s.writeAll field ws).slot other row := by
  have hsize : field.index < (s.writeAll field ws).columns.size :=
    (sameTables_writeAll s field ws).columns ▸ hf
  rw [writeAll_concat, slot_write hsize]

variable {ws}

theorem slot_writeAll_of_not_mem (hf : field.index < s.columns.size) {other : FieldId} {row : Row}
    (h : other = field → ∀ w ∈ ws, w.1 ≠ row) :
    (s.writeAll field ws).slot other row = s.slot other row := by
  induction ws using List.reverseRecOn with
  | nil => rfl
  | append_singleton ws w ih =>
    have hw : ¬(other = field ∧ row = w.1) := by
      rintro ⟨ho, hr⟩
      exact h ho w (List.mem_append_right _ List.mem_cons_self) hr.symm
    rw [slot_writeAll_concat ws hf, if_neg hw]
    exact ih fun ho w' hw' => h ho w' (List.mem_append_left _ hw')

/-- Writes to one row that agree leave what they all write. -/
theorem slot_writeAll_of_mem (hf : field.index < s.columns.size) {row : Row} {c : Coordinate}
    (hmem : (row, c) ∈ ws) (hagree : ∀ w ∈ ws, w.1 = row → w.2 = c) :
    (s.writeAll field ws).slot field row = some (FieldType.encode .coordinate c) := by
  induction ws using List.reverseRecOn with
  | nil => cases hmem
  | append_singleton ws w ih =>
    rw [slot_writeAll_concat ws hf]
    by_cases hrow : row = w.1
    · have hc := hagree w (List.mem_append_right _ List.mem_cons_self) hrow.symm
      simp [hrow, hc]
    · have hold : (row, c) ∈ ws := by
        rcases List.mem_append.mp hmem with h | h
        · exact h
        · exact absurd (congrArg Prod.fst (List.mem_singleton.mp h)) hrow
      simp only [hrow, and_false, if_false]
      exact ih hold fun w hw => hagree w (List.mem_append_left _ hw)

variable (ws)

theorem column_writeAll {other : FieldId} (h : other ≠ field) :
    (s.writeAll field ws).column other = s.column other := by
  induction ws using List.reverseRecOn with
  | nil => rfl
  | append_singleton ws w ih => rw [writeAll_concat, column_modifyColumn, if_neg h, ih]

theorem getValue_writeAll {other : FieldId} (h : other ≠ field) (t : FieldType) (row : Row) :
    (s.writeAll field ws).getValue t other row = s.getValue t other row := by
  simp only [getValue, getRaw, columnAt, checkRow, checkType_writeAll, isLive_writeAll,
    column_writeAll ws h]

/-- A field is read as one type only. -/
theorem ne_of_checkType {t t' : FieldType} (ht : t ≠ t') {other : FieldId}
    (h : s.checkType t other = .ok ()) (h' : s.checkType t' field = .ok ()) : other ≠ field := by
  rintro rfl
  obtain ⟨d, hd, hdt⟩ := (checkType_eq_ok ..).mp h
  obtain ⟨d', hd', hdt'⟩ := (checkType_eq_ok ..).mp h'
  have he : d = d' := Except.ok.inj (hd.symm.trans hd')
  exact ht (by rw [← hdt, ← hdt', he])

/-- Coordinates are written into a field of coordinates, if any are written. -/
def Admits (s : Store) (field : FieldId) (ws : List (Row × Coordinate)) : Prop :=
  ws ≠ [] → s.checkType .coordinate field = .ok ()

theorem admits_of_checkType (h : s.checkType .coordinate field = .ok ()) : s.Admits field ws :=
  fun _ => h

theorem admits_nil (s : Store) (field : FieldId) : s.Admits field [] := fun h => absurd rfl h

variable {ws}

theorem Admits.left {us : List (Row × Coordinate)} (h : s.Admits field (ws ++ us)) :
    s.Admits field ws :=
  fun hne => h fun hnil => hne (List.append_eq_nil_iff.mp hnil).1

/-- Fields that are read as something else are not written into. -/
theorem Admits.getValue (hw : s.Admits field ws) {t : FieldType} (ht : t ≠ .coordinate)
    {other : FieldId} (h : s.checkType t other = .ok ()) (row : Row) :
    (s.writeAll field ws).getValue t other row = s.getValue t other row := by
  by_cases hne : ws = []
  · rw [hne]
    rfl
  · exact getValue_writeAll ws (ne_of_checkType ht h (hw hne)) t row

end Writes
end Store

theorem Accessor.existing_writeAll (s : Store) (field : FieldId) (ws : List (Row × Coordinate))
    (t : FieldType) (name : String) :
    Accessor.existing t (s.writeAll field ws) name = Accessor.existing t s name := by
  simp only [Accessor.existing, Store.lookupField, Store.describeField,
    (Store.sameTables_writeAll ..).registry]

theorem GeoSource.resolve_writeAll (source : GeoSource) (s : Store) (field : FieldId)
    (ws : List (Row × Coordinate)) : source.resolve (s.writeAll field ws) = source.resolve s := by
  simp only [resolve, GeoSource.field, Accessor.existing_writeAll]

end TrackStore
