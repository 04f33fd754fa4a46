import Mathlib.Algebra.BigOperators.Group.List.Lemmas
import Mathlib.Algebra.Ring.Nat
import Mathlib.Data.List.Nodup
import TrackStore.Proofs.WellFormed
import TrackStore.Store.Basic

/-! # Slots by columns and by rows

The number of slots is kept column by column. Counted row by row it is the same, because no column
has a slot at a row that is not live, and emptying one slot lowers it by one or leaves it.
-/
namespace TrackStore.Store

theorem stats_slots (s : Store) : s.stats.slots = (s.columns.toList.map (·.size)).sum := by
  rw [stats, ← Array.foldl_toList, List.sum_eq_foldl, List.foldl_map]

theorem sum_size_modify {columns : List Column} {i : Nat} {column : Column} {f : Column → Column}
    (hi : columns[i]? = some column) :
    ((columns.modify i f).map (·.size)).sum + column.size =
      (columns.map (·.size)).sum + (f column).size := by
  induction columns generalizing i with
  | nil => cases hi
  | cons head columns ih =>
    cases i with
    | zero =>
      cases hi
      simp only [List.modify_zero_cons, List.map_cons, List.sum_cons]
      omega
    | succ i =>
      have hrest := ih hi
      simp only [List.modify_succ_cons, List.map_cons, List.sum_cons]
      omega

theorem slots_clear {s : Store} {field : FieldId} (hf : field.index < s.columns.size) (row : Row) :
    (s.modifyColumn field (·.erase row)).stats.slots + (s.slot field row).isSome.toNat =
      s.stats.slots := by
  have hcolumn : s.columns.toList[field.index]? = some s.columns[field.index] := by
    rw [Array.getElem?_toList, Array.getElem?_eq_getElem hf]
  have hsum := sum_size_modify (f := (·.erase row)) hcolumn
  have hslot : (s.slot field row).isSome = s.columns[field.index].contains row := by
    simp [slot, hf]
  rw [Std.ExtTreeMap.size_erase] at hsum
  rw [stats_slots, stats_slots, modifyColumn, Array.toList_modify, hslot]
  cases hrow : s.columns[field.index].contains row with
  | false =>
    simp only [hrow] at hsum
    exact Nat.add_right_cancel hsum
  | true =>
    have hsize : 0 < s.columns[field.index].size := by
      rw [← Std.ExtTreeMap.length_keys]
      exact List.length_pos_of_mem (Std.ExtTreeMap.mem_keys.mpr hrow)
    simp only [hrow, if_true] at hsum
    simp only [Bool.toNat_true]
    omega

theorem size_eq_countP {column : Column} {rows : List Row} (hrows : rows.Nodup)
    (hmem : ∀ row ∈ column, row ∈ rows) : column.size = rows.countP (column.contains ·) := by
  have hperm : column.keys.Perm (rows.filter (column.contains ·)) := by
    refine (List.perm_ext_iff_of_nodup Std.ExtTreeMap.nodup_keys (hrows.filter _)).mpr fun row => ?_
    rw [Std.ExtTreeMap.mem_keys, List.mem_filter, Std.ExtTreeMap.contains_iff_mem]
    exact ⟨fun h => ⟨hmem row h, h⟩, fun h => h.2⟩
  rw [← Std.ExtTreeMap.length_keys, hperm.length_eq, List.countP_eq_length_filter]

theorem countP_eq_sum {α : Type} (p : α → Bool) (xs : List α) :
    xs.countP p = (xs.map fun x => if p x then 1 else 0).sum := by
  induction xs with
  | nil => rfl
  | cons x xs ih => rw [List.countP_cons, List.map_cons, List.sum_cons, ih, Nat.add_comm]

/-- The slots of some columns at some rows, counted by columns and by rows. -/
theorem sum_countP_comm (columns : List Column) (rows : List Row) :
    (columns.map fun column => rows.countP (column.contains ·)).sum =
      (rows.map fun row => columns.countP (·.contains row)).sum := by
  induction columns with
  | nil => simp
  | cons column columns ih =>
    simp only [List.map_cons, List.sum_cons, List.countP_cons, List.sum_map_add, ih]
    rw [countP_eq_sum, Nat.add_comm]

theorem length_filledFields (s : Store) (row : Row) :
    (s.filledFields row).length = s.columns.toList.countP (·.contains row) := by
  have hcolumns : s.columns.toList.zipIdx.map Prod.fst = s.columns.toList := by simp
  conv_rhs => rw [← hcolumns]
  rw [filledFields, List.length_filterMap_eq_countP, List.countP_map]
  refine List.countP_congr fun c _ => ?_
  cases hrow : c.1.contains row <;> simp [hrow]

theorem nodup_liveRows (s : Store) : s.liveRows.Nodup :=
  s.rows.pairwise_liveRows.imp fun h => ne_of_irrefl h

/-- No column keeps a slot at a row that is not live, so the rows that are live account for all. -/
theorem slots_eq_sum {s : Store} (hs : s.WellFormed) :
    s.stats.slots = (s.liveRows.map fun row => (s.filledFields row).length).sum := by
  have hsize (column : Column) (hcolumn : column ∈ s.columns.toList) :
      column.size = s.liveRows.countP (column.contains ·) := by
    obtain ⟨i, hi, rfl⟩ := List.mem_iff_getElem.mp hcolumn
    refine size_eq_countP s.nodup_liveRows fun row hrow => ?_
    have hi' : s.columns[i]? = some s.columns.toList[i] := by simp_all
    have hslot : s.slot ⟨i⟩ row ≠ none := by
      rw [slot, hi']
      simpa using hrow
    exact (s.rows.mem_liveRows row).mpr (hs.slots ⟨i⟩ row hslot)
  rw [stats_slots, List.map_congr_left hsize, sum_countP_comm]
  simp only [length_filledFields]

end TrackStore.Store
