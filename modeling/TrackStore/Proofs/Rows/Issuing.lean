import TrackStore.Proofs.Rows.Members

/-! # Rows issued and released

What an allocator answers after any sequence of calls is read off the sequence: the rows are issued
as 1, 2, 3, …, and a row is live exactly if it was issued and not released since. The room that was
asked for is there for that many rows, and in machine words nothing overflows.
-/
namespace TrackStore

/-- A call that changes an allocator; a release can name any row. -/
inductive RowAllocator.Call where
  | allocate
  | release (row : Row)
deriving DecidableEq, Repr

namespace RowAllocator

namespace Call

def apply (a : RowAllocator) : Call → RowAllocator
  | allocate => a.allocate.2
  | release row => (a.release row).2

/-- The call is a release, and answers that the row was live. -/
def retires (a : RowAllocator) : Call → Bool
  | allocate => false
  | release row => (a.release row).1

end Call

def run (a : RowAllocator) (cs : List Call) : RowAllocator := cs.foldl Call.apply a

/-- How many rows the calls issue. -/
def allocations (cs : List Call) : Nat := cs.count .allocate

/-- How many releases of a sequence of calls answer that the row was live. -/
def retirements (a : RowAllocator) : List Call → Nat
  | [] => 0
  | c :: cs => (c.retires a).toNat + (c.apply a).retirements cs

/-- One of the calls issued the row, and no later one released it. -/
def Kept (cs : List Call) (row : Row) : Prop :=
  ∃ earlier later, cs = earlier ++ .allocate :: later ∧ row.id = allocations earlier + 1 ∧
    .release row ∉ later

end RowAllocator

structure WordAllocator where
  next : Nat
  live : WordBitmap
deriving DecidableEq, Repr

namespace WordAllocator

def withCapacity? (rows : Nat) : Option WordAllocator := do
  return ⟨1, ← WordBitmap.withCapacity? (← Word.add? rows 1)⟩

def allocate? (a : WordAllocator) : Option (Row × WordAllocator) := do
  return (⟨a.next⟩, ⟨← Word.add? a.next 1, ← a.live.insert? a.next⟩)

def release? (a : WordAllocator) (row : Row) : Option (Bool × WordAllocator) := do
  let (wasLive, live) ← a.live.erase? row.id
  return (wasLive, { a with live })

def isLive? (a : WordAllocator) (row : Row) : Option Bool := a.live.contains? row.id

def issued? (a : WordAllocator) : Option Nat := Word.sub? a.next 1

def call? (a : WordAllocator) : RowAllocator.Call → Option WordAllocator
  | .allocate => (·.2) <$> a.allocate?
  | .release row => (·.2) <$> a.release? row

def run? (a : WordAllocator) (cs : List RowAllocator.Call) : Option WordAllocator :=
  cs.foldlM call? a

end WordAllocator

namespace RowAllocator

def inWords (a : RowAllocator) : WordAllocator := ⟨a.next, a.live.inWords⟩

variable {a : RowAllocator} {cs : List Call} {row : Row}

theorem run_append (a : RowAllocator) (cs ds : List Call) : a.run (cs ++ ds) = (a.run cs).run ds :=
  List.foldl_append

theorem run_cons (a : RowAllocator) (c : Call) (cs : List Call) :
    a.run (c :: cs) = (c.apply a).run cs := rfl

theorem allocations_append (cs ds : List Call) :
    allocations (cs ++ ds) = allocations cs + allocations ds := List.count_append

theorem allocations_cons (c : Call) (cs : List Call) :
    allocations (c :: cs) = allocations [c] + allocations cs := allocations_append [c] cs

theorem next_apply (a : RowAllocator) (c : Call) : (c.apply a).next = a.next + allocations [c] := by
  cases c <;> rfl

theorem next_run (a : RowAllocator) (cs : List Call) :
    (a.run cs).next = a.next + allocations cs := by
  induction cs generalizing a with
  | nil => rfl
  | cons c cs ih => rw [run_cons, ih, next_apply, allocations_cons c cs, Nat.add_assoc]

/-- A row is kept by one call more if that call does not release it, or if it issues it. -/
theorem kept_concat {c : Call} :
    Kept (cs ++ [c]) row ↔
      Kept cs row ∧ c ≠ .release row ∨ c = .allocate ∧ row.id = allocations cs + 1 := by
  constructor
  · rintro ⟨earlier, later, heq, hid, hlater⟩
    rcases List.eq_nil_or_concat later with rfl | ⟨later, d, rfl⟩
    · obtain ⟨rfl, hlast⟩ := List.append_inj' heq rfl
      exact .inr ⟨List.singleton_inj.mp hlast, hid⟩
    · rw [List.concat_eq_append, ← List.cons_append, ← List.append_assoc] at heq
      obtain ⟨rfl, hlast⟩ := List.append_inj' heq rfl
      cases hlast
      simp only [List.concat_eq_append, List.mem_append, List.mem_singleton, not_or] at hlater
      exact .inl ⟨⟨earlier, later, rfl, hid, hlater.1⟩, Ne.symm hlater.2⟩
  · rintro (⟨⟨earlier, later, rfl, hid, hlater⟩, hne⟩ | ⟨rfl, hid⟩)
    · exact ⟨earlier, later ++ [c], by simp, hid, by simpa using ⟨hlater, hne.symm⟩⟩
    · exact ⟨cs, [], rfl, hid, List.not_mem_nil⟩

theorem isLive_run (rows : Nat) (cs : List Call) (row : Row) :
    ((withCapacity rows).run cs).isLive row = true ↔ Kept cs row := by
  induction cs using List.reverseRecOn with
  | nil =>
    rw [run, List.foldl_nil, isLive_withCapacity]
    simp [Kept]
  | append_singleton cs c ih =>
    rw [run_append]
    cases c with
    | allocate =>
      have hnext : row = ((withCapacity rows).run cs).allocate.1 ↔ row.id = allocations cs + 1 := by
        cases row
        simp [allocate, next_run, withCapacity, Nat.add_comm]
      exact (Bool.eq_iff_iff.mp (isLive_allocate ..)).trans (by simp [ih, hnext, kept_concat])
    | release released =>
      have hsame : Call.release released = .release row ↔ row = released := by
        rw [Call.release.injEq, eq_comm]
      exact (Bool.eq_iff_iff.mp (isLive_release ..)).trans (by simp [ih, kept_concat, hsame])

/-- A release of a row that is not live changes nothing. -/
theorem release_of_not_live (h : (a.release row).1 = false) : (a.release row).2 = a := by
  rw [fst_release] at h
  have hlive : a.live.contains row.id = false := h
  simp [release, Bitmap.erase, hlive]

/-- One call: what is issued becomes live, and what is retired was. -/
theorem liveCount_apply (ha : a.WellFormed) (hcount : a.live.Counted) (c : Call) :
    (c.apply a).liveCount + (c.retires a).toNat = a.liveCount + allocations [c] := by
  cases c with
  | allocate =>
    have hnew : a.live.contains a.next = false := by
      by_contra h
      have hissued := ha.issued ⟨a.next⟩ (by simpa [isLive] using h)
      simp [wasIssued] at hissued
    have hcount := Bitmap.count_insert a.live a.next
    rw [hnew, if_neg Bool.false_ne_true] at hcount
    exact hcount
  | release row =>
    have herase := Bitmap.count_erase a.live row.id
    have hretires : (Call.release row).retires a = a.live.contains row.id := fst_release a row
    rw [hretires]
    cases hlive : a.live.contains row.id with
    | false =>
      rw [hlive, if_neg Bool.false_ne_true] at herase
      exact herase
    | true =>
      have hpos : 0 < a.live.count := by
        rw [hcount]
        exact List.length_pos_of_mem ((Bitmap.mem_toList ..).mpr hlive)
      rw [hlive, if_pos rfl] at herase
      have hafter : ((Call.release row).apply a).liveCount = a.live.count - 1 := herase
      have hbefore : a.liveCount = a.live.count := rfl
      rw [hafter, hbefore, Bool.toNat_true]
      exact Nat.sub_add_cancel hpos

theorem WellFormed.apply (ha : a.WellFormed) (c : Call) : (c.apply a).WellFormed := by
  cases c with
  | allocate => exact ha.allocate
  | release row => exact ha.release row

theorem counted_apply (h : a.live.Counted) (c : Call) : (c.apply a).live.Counted := by
  cases c with
  | allocate => exact h.insert a.next
  | release row => exact h.erase row.id

theorem counted_run (h : a.live.Counted) (cs : List Call) : (a.run cs).live.Counted := by
  induction cs generalizing a with
  | nil => exact h
  | cons c cs ih => exact ih (counted_apply h c)

theorem liveCount_run (ha : a.WellFormed) (hcount : a.live.Counted) (cs : List Call) :
    (a.run cs).liveCount + a.retirements cs = a.liveCount + allocations cs := by
  induction cs generalizing a with
  | nil => rfl
  | cons c cs ih =>
    have hstep := liveCount_apply ha hcount c
    have hrest := ih (ha.apply c) (counted_apply hcount c)
    rw [run_cons, retirements, allocations_cons c cs]
    omega

/-- A row that there is room for is issued without growth. -/
theorem capacity_apply {c : Call} (h : a.next + allocations [c] ≤ a.live.capacity) :
    (c.apply a).live.capacity = a.live.capacity := by
  cases c with
  | allocate =>
    have hroom : a.next < a.live.capacity := h
    refine (Bitmap.capacity_insert a.live a.next).trans ?_
    rw [Bitmap.grow, if_pos hroom]
  | release row => exact Bitmap.capacity_erase a.live row.id

theorem capacity_run (h : a.next + allocations cs ≤ a.live.capacity) :
    (a.run cs).live.capacity = a.live.capacity := by
  induction cs generalizing a with
  | nil => rfl
  | cons c cs ih =>
    rw [allocations_cons c cs] at h
    have hnext := next_apply a c
    have hcapacity : (c.apply a).live.capacity = a.live.capacity := capacity_apply (by omega)
    rw [run_cons, ih (by omega), hcapacity]

theorem lt_capacity_withCapacity (rows : Nat) : rows < (withCapacity rows).live.capacity :=
  Bitmap.le_capacity_withCapacity (rows + 1)

theorem capacity_run_withCapacity {rows : Nat} (h : allocations cs ≤ rows) :
    ((withCapacity rows).run cs).live.capacity = (withCapacity rows).live.capacity := by
  refine capacity_run ?_
  have hroom := lt_capacity_withCapacity rows
  have hnext : (withCapacity rows).next = 1 := rfl
  omega

/-- The capacity is a multiple of 64, so doubling it below 2 ^ 63 leaves room for the rounding. -/
theorem growthFits_of_lt {b : Bitmap} {id : Nat} (h : id < 2 ^ 63) : b.GrowthFits id := by
  intro hgrows
  unfold Bitmap.capacity at *
  unfold Word.limit
  omega

theorem withCapacity?_eq {rows : Nat} (h : rows + 64 < Word.limit) :
    WordAllocator.withCapacity? rows = some (withCapacity rows).inWords := by
  have hrows : rows + 1 < Word.limit := by omega
  have hroom : rows + 1 + 63 < Word.limit := h
  simp only [WordAllocator.withCapacity?, Word.add?_of_lt hrows, Bitmap.withCapacity?_eq hroom,
    Option.bind_eq_bind, Option.bind_some]
  rfl

theorem allocate?_eq (hcount : a.live.Counted) (hb : a.live.capacity < Word.limit)
    (h : a.next < 2 ^ 63) :
    a.inWords.allocate? = some (a.allocate.1, a.allocate.2.inWords) := by
  have hnext : a.next + 1 < Word.limit := by
    unfold Word.limit
    omega
  have hinsert := Bitmap.insert?_eq hcount hb (growthFits_of_lt h)
  simp only [WordAllocator.allocate?, inWords, Word.add?_of_lt hnext, hinsert, Option.bind_eq_bind,
    Option.bind_some]
  rfl

theorem release?_eq (hcount : a.live.Counted) (row : Row) :
    a.inWords.release? row = some ((a.release row).1, (a.release row).2.inWords) := by
  simp only [WordAllocator.release?, inWords, Bitmap.erase?_eq hcount, Option.bind_eq_bind,
    Option.bind_some]
  rfl

/-- One call: it has an answer, after which the capacity still fits. -/
theorem call?_eq (hcount : a.live.Counted) (hb : a.live.capacity < Word.limit) {c : Call}
    (h : a.next + allocations [c] ≤ 2 ^ 63) :
    a.inWords.call? c = some (c.apply a).inWords ∧ (c.apply a).live.capacity < Word.limit := by
  cases c with
  | allocate =>
    have hid : a.next < 2 ^ 63 := h
    have hcapacity := Bitmap.capacity_grow_lt hb (growthFits_of_lt hid)
    rw [WordAllocator.call?, allocate?_eq hcount hb hid]
    exact ⟨rfl, (Bitmap.capacity_insert ..).trans_lt hcapacity⟩
  | release row =>
    rw [WordAllocator.call?, release?_eq hcount]
    exact ⟨rfl, (Bitmap.capacity_erase ..).trans_lt hb⟩

theorem run?_eq (hcount : a.live.Counted) (hb : a.live.capacity < Word.limit)
    (h : a.next + allocations cs ≤ 2 ^ 63) :
    a.inWords.run? cs = some (a.run cs).inWords ∧ (a.run cs).live.capacity < Word.limit := by
  induction cs generalizing a with
  | nil => exact ⟨rfl, hb⟩
  | cons c cs ih =>
    rw [allocations_cons c cs] at h
    have hnext := next_apply a c
    obtain ⟨hcall, hcapacity⟩ := call?_eq (c := c) hcount hb (by omega)
    rw [WordAllocator.run?, List.foldlM_cons, hcall]
    exact ih (counted_apply hcount c) hcapacity (by omega)

end RowAllocator

namespace Store

theorem rows_after (s : Store) (e : Edit) :
    ∃ cs, (e.after s).rows = s.rows.run cs ∧ RowAllocator.allocations cs = e.creates.toNat := by
  rw [Edit.after_eq, e.creates_eq s]
  cases e.change s with
  | none => exact ⟨[], rfl, rfl⟩
  | some c =>
    rw [Option.map_some, Option.getD_some, rows_apply]
    cases c with
    | issue => exact ⟨[.allocate], rfl, rfl⟩
    | drop row => exact ⟨[.release row], rfl, rfl⟩
    | _ => exact ⟨[], rfl, rfl⟩

/-- The rows of a store come from calls of its allocator, one allocation for every creation. -/
theorem rows_run_calls (s : Store) (es : List Edit) :
    ∃ cs, (s.run es).rows = s.rows.run cs ∧
      RowAllocator.allocations cs = es.countP Edit.creates := by
  induction es generalizing s with
  | nil => exact ⟨[], rfl, rfl⟩
  | cons e es ih =>
    obtain ⟨first, hfirst, hcreates⟩ := rows_after s e
    obtain ⟨later, hlater, hcount⟩ := ih (e.after s)
    refine ⟨first ++ later, ?_, ?_⟩
    · rw [RowAllocator.run_append, ← hfirst]
      exact hlater
    · rw [RowAllocator.allocations_append, hcreates, hcount, List.countP_cons, Nat.add_comm]
      cases e.creates <;> rfl

theorem capacity_run_withConfig {config : Config} {es : List Edit}
    (h : es.countP Edit.creates ≤ config.roomForRows) :
    ((withConfig config).run es).rows.live.capacity = (withConfig config).rows.live.capacity := by
  obtain ⟨cs, hrows, hcount⟩ := rows_run_calls (withConfig config) es
  rw [hrows]
  exact RowAllocator.capacity_run_withCapacity (hcount.trans_le h)

end Store

namespace RowAllocator

/-- After any sequence of calls the rows issued so far are 1, 2, 3, …, a row is live exactly if it
was issued and not released since, and releasing any other row does nothing. The bitmap does not
grow while there is room as asked for, of which a store gets no more than `2 ^ 26` rows, whatever
its settings say. Nothing overflows in machine words. -/
theorem issues_in_order (rows : Nat) (cs : List Call) :
    let a := (withCapacity rows).run cs
    (a.allocate.1 = ⟨allocations cs + 1⟩ ∧
      ∀ row, a.wasIssued row = true ↔ 1 ≤ row.id ∧ row.id ≤ allocations cs) ∧
    (∀ row, (a.isLive row = true ↔ Kept cs row) ∧ ((a.release row).1 = true ↔ Kept cs row) ∧
      ((a.release row).1 = false → (a.release row).2 = a)) ∧
    (a.liveRows.Pairwise (· < ·) ∧ (∀ row, row ∈ a.liveRows ↔ Kept cs row) ∧
      a.liveCount = a.liveRows.length) ∧
    (a.issued = allocations cs ∧ a.issued = a.liveCount + (withCapacity rows).retirements cs) ∧
    (allocations cs ≤ rows → a.live.capacity = (withCapacity rows).live.capacity) ∧
    (rows + 64 < 2 ^ 64 → allocations cs < 2 ^ 63 →
      ∃ w, (WordAllocator.withCapacity? rows).bind (·.run? cs) = some w ∧
        (allocations cs + 1 < 2 ^ 63 → w.allocate?.map (·.1) = some a.allocate.1) ∧
        w.issued? = some a.issued ∧ w.live.count = a.liveCount ∧
        ∀ row, w.isLive? row = some (a.isLive row) ∧
          (w.release? row).map (·.1) = some (a.release row).1) ∧
    ∀ config : Config,
      WordAllocator.withCapacity? config.roomForRows =
        some (Store.withConfig config).rows.inWords ∧
      ∀ es : List Edit, es.countP Edit.creates ≤ min config.initialRowCapacity (2 ^ 26) →
        ((Store.withConfig config).run es).rows.live.capacity =
          (Store.withConfig config).rows.live.capacity := by
  intro a
  have hnext : a.next = allocations cs + 1 := (next_run _ cs).trans (Nat.add_comm ..)
  have hissued : a.issued = allocations cs := by rw [issued, hnext, Nat.add_sub_cancel]
  have hnew := Bitmap.counted_withCapacity (rows + 1)
  have hcount : a.live.Counted := counted_run hnew cs
  have hlive (row : Row) : a.isLive row = true ↔ Kept cs row := isLive_run rows cs row
  refine ⟨⟨congrArg Row.mk hnext, fun row => ?_⟩, fun row => ⟨hlive row, ?_, release_of_not_live⟩,
    ⟨a.pairwise_liveRows, fun row => (mem_liveRows a row).trans (hlive row), ?_⟩,
    ⟨hissued, ?_⟩, capacity_run_withCapacity, fun hrows hallocations => ?_, fun config => ⟨?_, ?_⟩⟩
  · rw [wasIssued, hnext, Bool.and_eq_true, decide_eq_true_eq, decide_eq_true_eq, Nat.lt_succ_iff]
  · rw [fst_release]
    exact hlive row
  · rw [liveRows, List.length_map]
    exact hcount
  · have hbalance := liveCount_run (wellFormed_withCapacity rows) hnew cs
    have hstart : (withCapacity rows).liveCount = 0 := rfl
    rw [hstart, Nat.zero_add] at hbalance
    exact hissued.trans hbalance.symm
  · have hstart : (withCapacity rows).live.capacity < Word.limit := by
      rw [withCapacity, Bitmap.capacity_withCapacity]
      unfold Word.limit
      omega
    have hbound : (withCapacity rows).next + allocations cs ≤ 2 ^ 63 := by
      have hone : (withCapacity rows).next = 1 := rfl
      omega
    obtain ⟨hrun, hcapacity⟩ := run?_eq hnew hstart hbound
    refine ⟨a.inWords, ?_, fun hone => ?_, ?_, rfl, fun row => ⟨?_, ?_⟩⟩
    · rw [withCapacity?_eq hrows]
      exact hrun
    · have hfits : a.next < 2 ^ 63 := hnext.trans_lt hone
      rw [allocate?_eq hcount hcapacity hfits, Option.map_some]
    · have hpos : 1 ≤ a.next := (Nat.le_add_left ..).trans_eq hnext.symm
      exact Word.sub?_of_le hpos
    · exact Bitmap.contains?_eq a.live row.id
    · rw [release?_eq hcount, Option.map_some]
  · refine withCapacity?_eq ?_
    unfold Config.roomForRows Config.maxRowCapacity Word.limit
    omega
  · exact fun es hes => Store.capacity_run_withConfig hes

/-- All the room of one word: 63 rows, with releases of a row that was never issued, of a live one
and of the same one again. -/
theorem issues_in_order_one_word :
    let cs : List Call :=
      .release ⟨70⟩ :: List.replicate 63 .allocate ++ [.release ⟨63⟩, .release ⟨63⟩]
    let a := (withCapacity 63).run cs
    a.allocate.1 = ⟨64⟩ ∧ Kept cs ⟨62⟩ ∧ a.issued = a.liveCount + 1 ∧ a.live.capacity = 64 ∧
      ∃ w, (WordAllocator.withCapacity? 63).bind (·.run? cs) = some w ∧ w.live.count = 62 := by
  intro cs a
  have hcs : allocations cs = 63 := by decide
  obtain ⟨⟨hnext, -⟩, hlive, -, ⟨-, hissued⟩, hroom, hwords, -⟩ := issues_in_order 63 cs
  obtain ⟨w, hrun, -, -, hcount, -⟩ := hwords (by decide) (by rw [hcs]; decide)
  have hretired : (withCapacity 63).retirements cs = 1 := by decide +kernel
  refine ⟨hnext, (hlive ⟨62⟩).1.mp (by decide +kernel), by rw [hissued, hretired],
    (hroom hcs.le).trans (by decide), w, hrun, hcount.trans (by decide +kernel)⟩

end RowAllocator
end TrackStore
