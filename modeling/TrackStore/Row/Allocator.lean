import TrackStore.Row.Bitmap.Lemmas

/-! # Rows

A row is named by the number under which it was issued. Rows are compared by that number, so a map
keyed by rows lists them in the order of their creation.

Rows are issued with ascending numbers from 1 and are never issued again. A bitmap remembers which
of the issued rows are still live.
-/

namespace TrackStore

structure Row where
  id : Nat
deriving DecidableEq, Repr

namespace Row

def text (row : Row) : String := s!"row#{row.id}"

instance : Ord Row := ⟨compareOn Row.id⟩

instance : Std.TransOrd Row := inferInstanceAs (Std.TransCmp (compareOn Row.id))

instance : Std.LawfulEqOrd Row where
  eq_of_compare {a b} h := by
    have hid : a.id = b.id := Nat.compare_eq_eq.mp h
    cases a; cases b; simp_all

instance : LT Row := ⟨fun a b => a.id < b.id⟩

instance : LE Row := ⟨fun a b => a.id ≤ b.id⟩

instance (a b : Row) : Decidable (a < b) := inferInstanceAs (Decidable (a.id < b.id))

instance (a b : Row) : Decidable (a ≤ b) := inferInstanceAs (Decidable (a.id ≤ b.id))

instance : Std.Irrefl fun a b : Row => a < b := ⟨fun a => Nat.lt_irrefl a.id⟩

instance : Std.Antisymm fun a b : Row => a < b := ⟨fun _ _ h h' => absurd h' (Nat.lt_asymm h)⟩

end Row

structure RowAllocator where
  /-- The number of the next row. -/
  next : Nat
  live : Bitmap
deriving DecidableEq, Repr

namespace RowAllocator

/-- No row issued yet, with room for `rows` rows. -/
def withCapacity (rows : Nat) : RowAllocator := ⟨1, .withCapacity (rows + 1)⟩

def allocate (a : RowAllocator) : Row × RowAllocator :=
  (⟨a.next⟩, ⟨a.next + 1, a.live.insert a.next⟩)

/-- Retires a row for good, and says whether it was live. -/
def release (a : RowAllocator) (row : Row) : Bool × RowAllocator :=
  let (wasLive, live) := a.live.erase row.id
  (wasLive, { a with live })

def isLive (a : RowAllocator) (row : Row) : Bool := a.live.contains row.id

def wasIssued (a : RowAllocator) (row : Row) : Bool := 1 ≤ row.id && row.id < a.next

/-- How many rows were ever issued. -/
def issued (a : RowAllocator) : Nat := a.next - 1

def liveCount (a : RowAllocator) : Nat := a.live.count

/-- The live rows in the order in which they were issued. -/
def liveRows (a : RowAllocator) : List Row := a.live.toList.map Row.mk

theorem isLive_withCapacity (rows : Nat) (row : Row) : (withCapacity rows).isLive row = false :=
  Bitmap.contains_withCapacity (rows + 1) row.id

theorem isLive_allocate (a : RowAllocator) (row : Row) :
    a.allocate.2.isLive row = (a.isLive row || decide (row = a.allocate.1)) := by
  have h : row.id = a.next ↔ row = ⟨a.next⟩ := by cases row; simp
  exact (Bitmap.contains_insert a.live a.next row.id).trans
    (congrArg (a.live.contains row.id || ·) (decide_eq_decide.mpr h))

theorem fst_release (a : RowAllocator) (row : Row) : (a.release row).1 = a.isLive row :=
  Bitmap.fst_erase a.live row.id

theorem isLive_release (a : RowAllocator) (row other : Row) :
    (a.release row).2.isLive other = (a.isLive other && !decide (other = row)) := by
  have h : other.id = row.id ↔ other = row := by cases other; cases row; simp
  exact (Bitmap.contains_erase a.live row.id other.id).trans
    (congrArg (a.live.contains other.id && !·) (decide_eq_decide.mpr h))

theorem issued_allocate (a : RowAllocator) (h : 0 < a.next) :
    a.allocate.2.issued = a.issued + 1 := by
  simp only [issued, allocate]
  omega

theorem mem_liveRows (a : RowAllocator) (row : Row) : row ∈ a.liveRows ↔ a.isLive row = true := by
  simp only [liveRows, List.mem_map, Bitmap.mem_toList, isLive]
  constructor
  · rintro ⟨id, h, rfl⟩
    exact h
  · intro h
    exact ⟨row.id, h, rfl⟩

theorem pairwise_liveRows (a : RowAllocator) : a.liveRows.Pairwise (· < ·) :=
  a.live.pairwise_toList.map Row.mk fun _ _ h => h

end RowAllocator
end TrackStore
