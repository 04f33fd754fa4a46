import Mathlib.Data.Finset.Sort
import TrackStore.Proofs.Rows.Words

/-! # Bitmaps as sets

Any sequence of calls leads a bitmap to the set that the same insertions and removals make of the
empty one: membership, what a removal answers, the count and the list of members are those of the
set. The capacity only grows, and it is above everything that was ever inserted or asked for. In
machine words the same sequence has an answer as long as its sizes fit.
-/
namespace TrackStore

/-- A call that can change a bitmap, with any number. -/
inductive Bitmap.Call where
  | insert (id : Nat)
  | erase (id : Nat)
  | reserve (room : Nat)
deriving DecidableEq, Repr

namespace Bitmap

namespace Call

def apply (b : Bitmap) : Call → Bitmap
  | insert id => b.insert id
  | erase id => (b.erase id).2
  | reserve room => b.reserve room

/-- What the call does to a set of numbers. -/
def members (s : Finset Nat) : Call → Finset Nat
  | insert id => Insert.insert id s
  | erase id => s.erase id
  | reserve _ => s

/-- The sizes that come up in the call fit into machine words. -/
def Fits (b : Bitmap) : Call → Prop
  | insert id => b.GrowthFits id
  | erase _ => True
  | reserve room => b.ReserveFits room

instance (b : Bitmap) : (c : Call) → Decidable (c.Fits b)
  | insert id => inferInstanceAs (Decidable (b.GrowthFits id))
  | erase _ => inferInstanceAs (Decidable True)
  | reserve room => inferInstanceAs (Decidable (b.ReserveFits room))

end Call

def run (b : Bitmap) (cs : List Call) : Bitmap := cs.foldl Call.apply b

def FitsWords (b : Bitmap) : List Call → Prop
  | [] => True
  | c :: cs => c.Fits b ∧ (c.apply b).FitsWords cs

instance decidableFitsWords (b : Bitmap) : (cs : List Call) → Decidable (b.FitsWords cs)
  | [] => inferInstanceAs (Decidable True)
  | c :: cs =>
    have := decidableFitsWords (c.apply b) cs
    inferInstanceAs (Decidable (c.Fits b ∧ (c.apply b).FitsWords cs))

/-- The set that the insertions and removals of a sequence of calls make. -/
def membersOf (cs : List Call) : Finset Nat := cs.foldl Call.members ∅

end Bitmap

namespace WordBitmap

def call? (b : WordBitmap) : Bitmap.Call → Option WordBitmap
  | .insert id => b.insert? id
  | .erase id => (·.2) <$> b.erase? id
  | .reserve room => b.reserve? room

def run? (b : WordBitmap) (cs : List Bitmap.Call) : Option WordBitmap := cs.foldlM call? b

end WordBitmap

namespace Bitmap

theorem Counted.reserve {b : Bitmap} (h : b.Counted) (room : Nat) : (b.reserve room).Counted := by
  have hperm : (b.reserve room).toList.Perm b.toList := by
    refine (List.perm_ext_iff_of_nodup (nodup_toList _) b.nodup_toList).mpr fun id => ?_
    rw [mem_toList, mem_toList, contains_reserve]
  rw [Counted, count_reserve, h, hperm.length_eq]

theorem Counted.apply {b : Bitmap} (h : b.Counted) (c : Call) : (c.apply b).Counted := by
  cases c with
  | insert id => exact h.insert id
  | erase id => exact h.erase id
  | reserve room => exact h.reserve room

/-- The members of the bitmap are those of the set, and they were counted. -/
structure Represents (b : Bitmap) (s : Finset Nat) : Prop where
  mem : ∀ id, b.contains id = true ↔ id ∈ s
  counted : b.Counted

theorem represents_withCapacity (room : Nat) : (withCapacity room).Represents ∅ where
  mem id := by simp [contains_withCapacity]
  counted := counted_withCapacity room

namespace Represents

variable {b : Bitmap} {s : Finset Nat}

theorem insert (h : b.Represents s) (id : Nat) : (b.insert id).Represents (Insert.insert id s) where
  mem i := by simp [contains_insert, h.mem, or_comm]
  counted := h.counted.insert id

theorem erase (h : b.Represents s) (id : Nat) : (b.erase id).2.Represents (s.erase id) where
  mem i := by simp [contains_erase, h.mem, and_comm]
  counted := h.counted.erase id

theorem reserve (h : b.Represents s) (room : Nat) : (b.reserve room).Represents s where
  mem i := by rw [contains_reserve, h.mem]
  counted := h.counted.reserve room

theorem apply (h : b.Represents s) (c : Call) : (c.apply b).Represents (c.members s) := by
  cases c with
  | insert id => exact h.insert id
  | erase id => exact h.erase id
  | reserve room => exact h.reserve room

theorem run (h : b.Represents s) (cs : List Call) :
    (b.run cs).Represents (cs.foldl Call.members s) := by
  induction cs generalizing b s with
  | nil => exact h
  | cons c cs ih => exact ih (h.apply c)

theorem contains_eq (h : b.Represents s) (id : Nat) : b.contains id = decide (id ∈ s) :=
  Bool.eq_iff_iff.mpr ((h.mem id).trans decide_eq_true_iff.symm)

theorem toList_eq (h : b.Represents s) : b.toList = s.sort (· ≤ ·) := by
  have hset : b.toList.toFinset = s := by
    ext id
    rw [List.mem_toFinset, mem_toList, h.mem]
  have hsorted : b.toList.Pairwise (· ≤ ·) := b.pairwise_toList.imp Nat.le_of_lt
  rw [← hset]
  exact ((List.toFinset_sort (· ≤ ·) b.nodup_toList).mpr hsorted).symm

theorem count_eq (h : b.Represents s) : b.count = s.card := by
  rw [h.counted, h.toList_eq, Finset.length_sort]

end Represents

theorem capacity_le_grow (b : Bitmap) (id : Nat) : b.capacity ≤ (b.grow id).capacity := by
  unfold grow
  split
  · exact Nat.le_refl _
  · exact capacity_le_reserve b _

theorem capacity_le_apply (b : Bitmap) (c : Call) : b.capacity ≤ (c.apply b).capacity := by
  cases c with
  | insert id => exact (capacity_le_grow b id).trans_eq (capacity_insert b id).symm
  | erase id => exact (capacity_erase b id).ge
  | reserve room => exact capacity_le_reserve b room

theorem capacity_le_run (b : Bitmap) (cs : List Call) : b.capacity ≤ (b.run cs).capacity := by
  induction cs generalizing b with
  | nil => exact Nat.le_refl _
  | cons c cs ih => exact (capacity_le_apply b c).trans (ih (c.apply b))

theorem run_append (b : Bitmap) (cs ds : List Call) : b.run (cs ++ ds) = (b.run cs).run ds :=
  List.foldl_append

/-- The capacity that a call of a sequence had led to is not lost again. -/
theorem capacity_le_run_of_mem {cs : List Call} {c : Call} (hc : c ∈ cs) (b : Bitmap) :
    ∃ before, (c.apply before).capacity ≤ (b.run cs).capacity := by
  obtain ⟨earlier, later, rfl⟩ := List.append_of_mem hc
  refine ⟨b.run earlier, ?_⟩
  rw [run_append]
  exact capacity_le_run _ later

theorem le_capacity_run {cs : List Call} {room : Nat} (h : .reserve room ∈ cs) (b : Bitmap) :
    room ≤ (b.run cs).capacity := by
  obtain ⟨before, hle⟩ := capacity_le_run_of_mem h b
  exact (le_capacity_reserve before room).trans hle

theorem lt_capacity_run {cs : List Call} {id : Nat} (h : .insert id ∈ cs) (b : Bitmap) :
    id < (b.run cs).capacity := by
  obtain ⟨before, hle⟩ := capacity_le_run_of_mem h b
  exact (lt_capacity_grow before id).trans_le ((capacity_insert before id).symm.trans_le hle)

theorem le_capacity_withCapacity (room : Nat) : room ≤ (withCapacity room).capacity := by
  rw [capacity_withCapacity]
  omega

theorem call?_eq {b : Bitmap} (hcount : b.Counted) (hb : b.capacity < Word.limit) {c : Call}
    (h : c.Fits b) : b.inWords.call? c = some (c.apply b).inWords := by
  cases c with
  | insert id => exact insert?_eq hcount hb h
  | erase id => rw [WordBitmap.call?, erase?_eq hcount]; rfl
  | reserve room => exact reserve?_eq h

theorem capacity_apply_lt {b : Bitmap} (hb : b.capacity < Word.limit) {c : Call} (h : c.Fits b) :
    (c.apply b).capacity < Word.limit := by
  cases c with
  | insert id => exact (capacity_insert b id).trans_lt (capacity_grow_lt hb h)
  | erase id => exact (capacity_erase b id).trans_lt hb
  | reserve room => exact capacity_reserve_lt hb h

theorem run?_eq {b : Bitmap} (hcount : b.Counted) (hb : b.capacity < Word.limit) {cs : List Call}
    (h : b.FitsWords cs) : b.inWords.run? cs = some (b.run cs).inWords := by
  induction cs generalizing b with
  | nil => rfl
  | cons c cs ih =>
    have hnext := ih (hcount.apply c) (capacity_apply_lt hb h.1) h.2
    rw [WordBitmap.run?, List.foldlM_cons, call?_eq hcount hb h.1]
    exact hnext

/-- After any sequence of calls a bitmap is the set that the same insertions and removals make, with
a capacity that covers every request and only grows. If all sizes fit into machine words, the same
sequence has an answer there, with no number too great, no count below zero and no index beyond the
words. -/
theorem refines_set (room : Nat) (cs : List Call) :
    let b := (withCapacity room).run cs
    let s := membersOf cs
    (∀ id, b.contains id = decide (id ∈ s) ∧ (b.erase id).1 = decide (id ∈ s)) ∧
    b.count = s.card ∧
    (b.toList = s.sort (· ≤ ·) ∧ b.toList.Pairwise (· < ·)) ∧
    (room ≤ b.capacity ∧ (∀ asked, .reserve asked ∈ cs → asked ≤ b.capacity) ∧
      (∀ id, .insert id ∈ cs → id < b.capacity) ∧ ∀ more, b.capacity ≤ (b.run more).capacity) ∧
    (∀ n, ((b.reserve n).contains = b.contains ∧ (b.reserve n).count = b.count) ∧
      (b.grow n).contains = b.contains ∧ (b.grow n).count = b.count) ∧
    (room + 63 < 2 ^ 64 → (withCapacity room).FitsWords cs →
      ∃ w, (WordBitmap.withCapacity? room).bind (·.run? cs) = some w ∧
        w.words = b.words ∧ w.count = s.card ∧ w.capacity = 64 * w.words.size ∧
        ∀ id, w.contains? id = some (decide (id ∈ s)) ∧
          (w.erase? id).map (·.1) = some (decide (id ∈ s))) := by
  intro b s
  have hb : b.Represents s := (represents_withCapacity room).run cs
  refine ⟨fun id => ⟨hb.contains_eq id, (fst_erase b id).trans (hb.contains_eq id)⟩, hb.count_eq,
    ⟨hb.toList_eq, b.pairwise_toList⟩,
    ⟨(le_capacity_withCapacity room).trans (capacity_le_run _ cs),
      fun _ h => le_capacity_run h _, fun _ h => lt_capacity_run h _, capacity_le_run b⟩,
    fun n => ⟨⟨funext (contains_reserve b n), count_reserve b n⟩,
      funext (contains_grow b n), count_grow b n⟩, fun hroom hfits => ?_⟩
  have hnew : (withCapacity room).capacity < Word.limit := by
    rw [capacity_withCapacity]
    unfold Word.limit
    omega
  refine ⟨b.inWords, ?_, rfl, hb.count_eq, rfl, fun id => ⟨?_, ?_⟩⟩
  · rw [withCapacity?_eq hroom]
    exact run?_eq (counted_withCapacity room) hnew hfits
  · rw [contains?_eq, hb.contains_eq]
  · rw [erase?_eq hb.counted, Option.map_some, fst_erase, hb.contains_eq]

/-- From no capacity at all, over two word boundaries, with a number removed and inserted again. -/
theorem refines_set_boundaries :
    let cs : List Call :=
      [.insert 130, .insert 1, .erase 700, .insert 64, .erase 64, .insert 63, .reserve 321,
        .insert 64]
    let b := (withCapacity 0).run cs
    b.toList = (membersOf cs).sort (· ≤ ·) ∧ b.toList = [1, 63, 64, 130] ∧ b.capacity = 384 ∧
      ∃ w, (WordBitmap.withCapacity? 0).bind (·.run? cs) = some w ∧ w.words = b.words ∧
        w.contains? 129 = some false := by
  intro cs b
  obtain ⟨-, -, ⟨hlist, -⟩, -, -, hwords⟩ := refines_set 0 cs
  obtain ⟨w, hrun, hw, -, -, hcontains⟩ := hwords (by decide) (by decide +kernel)
  have hmember : decide (129 ∈ membersOf cs) = false := by decide +kernel
  exact ⟨hlist, by decide +kernel, by decide +kernel, w, hrun, hw,
    (hcontains 129).1.trans (congrArg some hmember)⟩

end Bitmap
end TrackStore
