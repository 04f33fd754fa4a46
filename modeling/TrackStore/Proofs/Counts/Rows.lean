import Mathlib.Data.List.Nodup
import TrackStore.Proofs.History

/-! # Rows created and rows deleted

How many rows are live is counted while bits change, and how many were issued is read off the next
number. Every creation adds one to both, and every deletion of a live row takes one from the first,
so over a run the two numbers tell how many rows were created and how many were deleted.
-/
namespace TrackStore

namespace Bitmap

/-- The count that is kept is the number of members. -/
def Counted (b : Bitmap) : Prop := b.count = b.toList.length

theorem nodup_toList (b : Bitmap) : b.toList.Nodup := b.pairwise_toList.imp fun h => Nat.ne_of_lt h

theorem length_toList_insert (b : Bitmap) (id : Nat) :
    (b.insert id).toList.length =
      if b.contains id then b.toList.length else b.toList.length + 1 := by
  have hmem (i : Nat) : i ∈ (b.insert id).toList ↔ i ∈ b.toList ∨ i = id := by
    rw [mem_toList, contains_insert, Bool.or_eq_true, decide_eq_true_eq, mem_toList]
  split
  next h =>
    have hid : id ∈ b.toList := (mem_toList b id).mpr h
    have hperm : (b.insert id).toList.Perm b.toList := by
      refine (List.perm_ext_iff_of_nodup (nodup_toList _) b.nodup_toList).mpr fun i => ?_
      rw [hmem, or_iff_left_iff_imp]
      rintro rfl
      exact hid
    exact hperm.length_eq
  next h =>
    have hid : id ∉ b.toList := mt (mem_toList b id).mp h
    have hperm : (b.insert id).toList.Perm (id :: b.toList) := by
      have hnodup : (id :: b.toList).Nodup := List.nodup_cons.mpr ⟨hid, b.nodup_toList⟩
      refine (List.perm_ext_iff_of_nodup (nodup_toList _) hnodup).mpr fun i => ?_
      rw [hmem, List.mem_cons, or_comm]
    exact hperm.length_eq

theorem length_toList_erase (b : Bitmap) (id : Nat) :
    (b.erase id).2.toList.length =
      if b.contains id then b.toList.length - 1 else b.toList.length := by
  have hperm : (b.erase id).2.toList.Perm (b.toList.erase id) := by
    refine (List.perm_ext_iff_of_nodup (nodup_toList _) (b.nodup_toList.erase id)).mpr fun i => ?_
    rw [b.nodup_toList.mem_erase_iff, mem_toList, contains_erase, Bool.and_eq_true,
      Bool.not_eq_true', decide_eq_false_iff_not, mem_toList, and_comm]
  rw [hperm.length_eq, List.length_erase]
  exact if_congr (mem_toList b id) rfl rfl

theorem counted_withCapacity (room : Nat) : (withCapacity room).Counted := by
  have hempty : (withCapacity room).toList = [] := by
    refine List.eq_nil_iff_forall_not_mem.mpr fun id hid => ?_
    rw [mem_toList, contains_withCapacity] at hid
    cases hid
  rw [Counted, hempty]
  rfl

namespace Counted

variable {b : Bitmap}

theorem insert (h : b.Counted) (id : Nat) : (b.insert id).Counted := by
  rw [Counted, count_insert, length_toList_insert, h]

theorem erase (h : b.Counted) (id : Nat) : (b.erase id).2.Counted := by
  rw [Counted, count_erase, length_toList_erase, h]

end Counted

end Bitmap

namespace Store

theorem length_liveRows (s : Store) : s.liveRows.length = s.rows.live.toList.length :=
  List.length_map ..

theorem counted_run {s : Store} (h : s.rows.live.Counted) (es : List Edit) :
    (s.run es).rows.live.Counted := by
  refine run_keeps (P := fun s => s.rows.live.Counted) (fun s c _ h => ?_) h es
  rw [rows_apply]
  cases c with
  | issue => exact h.insert s.rows.next
  | drop row => exact h.erase row.id
  | _ => exact h

/-- A row that is issued was not live before, and one that is dropped was. -/
theorem length_liveRows_apply {s : Store} (hs : s.WellFormed) {c : Change} (hc : c.Allowed s) :
    (c.apply s).liveRows.length = match c with
      | .issue => s.liveRows.length + 1
      | .drop _ => s.liveRows.length - 1
      | _ => s.liveRows.length := by
  rw [length_liveRows, length_liveRows, rows_apply]
  cases c with
  | issue =>
    have hnew : s.rows.live.contains s.rows.next = false := hs.next_not_live
    exact (Bitmap.length_toList_insert ..).trans (if_neg (by rw [hnew]; decide))
  | drop row =>
    have hlive : s.rows.live.contains row.id = true := hc.1
    exact (Bitmap.length_toList_erase ..).trans (if_pos hlive)
  | _ => rfl

end Store

/-- The call creates a row. -/
def Edit.creates : Edit → Bool
  | createRow => true
  | _ => false

/-- The call deletes a row that is live. -/
def Edit.deletes (s : Store) (e : Edit) : Bool :=
  match e with
  | deleteRow row => s.isLive row && e.succeeds s
  | _ => false

/-- How many calls of a run delete a row that is live. -/
def Store.deletions (s : Store) : List Edit → Nat
  | [] => 0
  | e :: es => (e.deletes s).toNat + (e.after s).deletions es

def Change.issues : Change → Bool
  | issue => true
  | _ => false

def Change.drops : Change → Bool
  | drop _ => true
  | _ => false

namespace Edit

theorem creates_eq (e : Edit) (s : Store) : e.creates = (e.change s).any Change.issues := by
  cases e with
  | createRow => rfl
  | copyValue field src dst =>
    simp only [creates, change]
    split
    next column _ _ => cases column[src]? <;> rfl
    next => rfl
  | _ => simp only [creates, change]; split <;> rfl

/-- A live row that cannot be deleted has frames, and then the call is refused. -/
theorem deletes_eq (e : Edit) (s : Store) : e.deletes s = (e.change s).any Change.drops := by
  cases e with
  | createRow => rfl
  | deleteRow row =>
    simp only [deletes, succeeds, perform, Store.deleteRow_apply, change]
    cases hlive : s.isLive row with
    | true =>
      by_cases hframes : s.framesOf row = []
      · simp [Store.mayDelete, hlive, hframes, Change.drops]
      · simp [Store.mayDelete, hlive, hframes]
    | false =>
      have hkept : s.mayDelete row ≠ .ok true := by
        rw [ne_eq, Store.mayDelete_eq_true, hlive]
        exact fun h => absurd h.1 Bool.false_ne_true
      rcases hmay : s.mayDelete row with e | (_ | _)
      · rfl
      · rfl
      · exact absurd hmay hkept
  | copyValue field src dst =>
    simp only [deletes, change]
    split
    next column _ _ => cases column[src]? <;> rfl
    next => rfl
  | _ => simp only [deletes, change]; split <;> rfl

end Edit

namespace Store

variable {s : Store}

theorem issued_apply (hs : s.WellFormed) (c : Change) :
    (c.apply s).rows.issued = s.rows.issued + c.issues.toNat := by
  rw [rows_apply]
  cases c with
  | issue => exact RowAllocator.issued_allocate s.rows hs.rows.next_pos
  | _ => rfl

theorem issued_after (hs : s.WellFormed) (e : Edit) :
    (e.after s).rows.issued = s.rows.issued + e.creates.toNat := by
  rw [Edit.after_eq, e.creates_eq s]
  cases e.change s with
  | none => rfl
  | some c => exact issued_apply hs c

theorem length_liveRows_after (hs : s.WellFormed) (e : Edit) :
    (e.after s).liveRows.length + (e.deletes s).toNat = s.liveRows.length + e.creates.toNat := by
  rw [Edit.after_eq, e.creates_eq s, e.deletes_eq s]
  cases hc : e.change s with
  | none => rfl
  | some c =>
    have hallowed := Edit.change_allowed hc
    have hlength := length_liveRows_apply hs hallowed
    rw [Option.map_some, Option.getD_some, hlength]
    cases c with
    | drop row =>
      have hlive : row ∈ s.liveRows := (RowAllocator.mem_liveRows ..).mpr hallowed.1
      exact Nat.sub_add_cancel (List.length_pos_of_mem hlive)
    | _ => rfl

/-- Over a run every row was issued by a creation, and is live unless it was deleted. -/
theorem rows_run (hs : s.WellFormed) (es : List Edit) :
    (s.run es).rows.issued = s.rows.issued + es.countP Edit.creates ∧
      (s.run es).liveRows.length + s.deletions es =
        s.liveRows.length + es.countP Edit.creates := by
  induction es generalizing s with
  | nil => exact ⟨rfl, rfl⟩
  | cons e es ih =>
    obtain ⟨hissued, hlive⟩ := ih (hs.after e)
    have hissued' := issued_after hs e
    have hlive' := length_liveRows_after hs e
    have hcount : (e :: es).countP Edit.creates = es.countP Edit.creates + e.creates.toNat := by
      rw [List.countP_cons]
      cases e.creates <;> rfl
    have hrun : s.run (e :: es) = (e.after s).run es := rfl
    rw [hrun, hcount, deletions]
    omega

end Store
end TrackStore
