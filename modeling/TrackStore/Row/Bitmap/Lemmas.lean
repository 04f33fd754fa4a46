import TrackStore.Row.Bitmap

/-! # Members of a bitmap

How each operation changes the members: growth leaves them as they are, `insert` adds one, `erase`
removes one, and `toList` lists exactly them.
-/

namespace TrackStore.Bitmap

theorem capacity_withCapacity (room : Nat) :
    (withCapacity room).capacity = 64 * ((room + 63) / 64) := by
  simp [withCapacity, capacity, wordsFor]

theorem contains_withCapacity (room id : Nat) : (withCapacity room).contains id = false := by
  simp only [withCapacity, contains, Array.getElem?_replicate]
  by_cases h : id / 64 < wordsFor room <;> simp [h]

theorem le_capacity_reserve (b : Bitmap) (room : Nat) : room ≤ (b.reserve room).capacity := by
  unfold reserve
  split
  · assumption
  · simp only [capacity, wordsFor, Array.size_append, Array.size_replicate] at *
    omega

theorem capacity_le_reserve (b : Bitmap) (room : Nat) :
    b.capacity ≤ (b.reserve room).capacity := by
  unfold reserve
  split
  · exact Nat.le_refl _
  · simp only [capacity, Array.size_append]
    omega

@[simp] theorem contains_reserve (b : Bitmap) (room id : Nat) :
    (b.reserve room).contains id = b.contains id := by
  unfold reserve
  split
  · rfl
  · simp only [contains, Array.getElem?_append]
    by_cases hid : id / 64 < b.words.size
    · simp [hid]
    · simp only [hid, if_false, Array.getElem?_replicate]
      rw [Array.getElem?_eq_none (by omega)]
      by_cases hr : id / 64 - b.words.size < wordsFor room - b.words.size <;> simp [hr]

@[simp] theorem count_reserve (b : Bitmap) (room : Nat) : (b.reserve room).count = b.count := by
  unfold reserve
  split <;> rfl

theorem lt_capacity_grow (b : Bitmap) (id : Nat) : id < (b.grow id).capacity := by
  unfold grow
  split
  · assumption
  · have := le_capacity_reserve b (max (id + 1) (2 * b.capacity))
    omega

@[simp] theorem contains_grow (b : Bitmap) (grown id : Nat) :
    (b.grow grown).contains id = b.contains id := by
  unfold grow
  split <;> simp

@[simp] theorem count_grow (b : Bitmap) (id : Nat) : (b.grow id).count = b.count := by
  unfold grow
  split <;> simp

theorem getLsbD_bit (id i : Nat) : (bit id).getLsbD (i % 64) = decide (i % 64 = id % 64) := by
  simp only [bit, BitVec.getLsbD_twoPow]
  have := Nat.mod_lt i (by decide : 64 > 0)
  by_cases h : i % 64 = id % 64 <;> simp_all [eq_comm]

/-- Setting a bit of a word within the room. -/
theorem contains_setBit (b : Bitmap) (id i count : Nat) (h : id < b.capacity) :
    contains ⟨b.words.modify (id / 64) (· ||| bit id), count⟩ i =
      (b.contains i || decide (i = id)) := by
  have hw : id / 64 < b.words.size := by unfold capacity at h; omega
  simp only [contains, Array.getElem?_modify]
  by_cases hd : id / 64 = i / 64
  · have hi : i / 64 < b.words.size := hd ▸ hw
    have hmod : i % 64 = id % 64 ↔ i = id := by omega
    simp [hd, hi, getLsbD_bit, hmod]
  · have hne : i ≠ id := fun e => hd (by rw [e])
    simp [hd, hne]

theorem contains_clearBit (b : Bitmap) (id i count : Nat) :
    contains ⟨b.words.modify (id / 64) (· &&& ~~~(bit id)), count⟩ i =
      (b.contains i && !decide (i = id)) := by
  simp only [contains, Array.getElem?_modify]
  by_cases hd : id / 64 = i / 64
  · have hmod : i % 64 = id % 64 ↔ i = id := by omega
    by_cases hi : i / 64 < b.words.size
    · simp only [hd, if_true, Array.getElem?_eq_getElem hi, Option.map_some, BitVec.getLsbD_and,
        BitVec.getLsbD_not, Nat.mod_lt i (by decide : 64 > 0), decide_true, Bool.true_and,
        getLsbD_bit, hmod]
    · simp [hd, Array.getElem?_eq_none (Nat.le_of_not_lt hi)]
  · have hne : i ≠ id := fun e => hd (by rw [e])
    simp [hd, hne]

theorem contains_insert (b : Bitmap) (id i : Nat) :
    (b.insert id).contains i = (b.contains i || decide (i = id)) := by
  unfold insert
  by_cases h : (b.grow id).contains id
  · by_cases hi : i = id
    · subst hi; simp_all
    · simp [h, hi]
  · simp only [h, Bool.false_eq_true, if_false]
    rw [contains_setBit _ _ _ _ (lt_capacity_grow b id), contains_grow]

theorem count_insert (b : Bitmap) (id : Nat) :
    (b.insert id).count = if b.contains id then b.count else b.count + 1 := by
  unfold insert
  cases h : b.contains id <;> simp [h]

@[simp] theorem fst_erase (b : Bitmap) (id : Nat) : (b.erase id).1 = b.contains id := by
  unfold erase
  split <;> simp_all

theorem contains_erase (b : Bitmap) (id i : Nat) :
    (b.erase id).2.contains i = (b.contains i && !decide (i = id)) := by
  unfold erase
  split
  · exact contains_clearBit b id i _
  · by_cases hi : i = id
    · subst hi; simp_all
    · simp [hi]

theorem count_erase (b : Bitmap) (id : Nat) :
    (b.erase id).2.count = if b.contains id then b.count - 1 else b.count := by
  unfold erase
  cases b.contains id <;> simp

theorem mem_wordMembers (base id : Nat) (word : BitVec 64) :
    id ∈ wordMembers base word ↔ base ≤ id ∧ id - base < 64 ∧ word.getLsbD (id - base) = true := by
  unfold wordMembers
  split
  · simp_all
  · simp only [List.mem_map, List.mem_filter, List.mem_range]
    constructor
    · rintro ⟨i, ⟨hi, hbit⟩, rfl⟩
      simp_all
    · rintro ⟨hle, hlt, hbit⟩
      exact ⟨id - base, ⟨hlt, hbit⟩, by omega⟩

theorem mem_toList_go (base id : Nat) (words : List (BitVec 64)) :
    id ∈ toList.go base words ↔
      base ≤ id ∧ ∃ word, words[(id - base) / 64]? = some word ∧
        word.getLsbD ((id - base) % 64) := by
  induction words generalizing base with
  | nil => simp [toList.go]
  | cons word words ih =>
    simp only [toList.go, List.mem_append, mem_wordMembers, ih]
    by_cases hlow : id - base < 64
    · have h0 : (id - base) / 64 = 0 := by omega
      have hm : (id - base) % 64 = id - base := by omega
      simp only [h0, hm, hlow, List.getElem?_cons_zero]
      constructor
      · rintro (⟨hle, -, hbit⟩ | ⟨hle, -⟩)
        · exact ⟨hle, word, rfl, hbit⟩
        · omega
      · rintro ⟨hle, w, hw, hbit⟩
        cases hw
        exact .inl ⟨hle, trivial, hbit⟩
    · have hs : (id - base) / 64 = (id - (base + 64)) / 64 + 1 := by omega
      have hm : (id - base) % 64 = (id - (base + 64)) % 64 := by omega
      simp only [hs, hm, hlow, List.getElem?_cons_succ]
      constructor
      · rintro (⟨-, h, -⟩ | ⟨hle, h⟩)
        · exact h.elim
        · exact ⟨by omega, h⟩
      · rintro ⟨hle, h⟩
        exact .inr ⟨by omega, h⟩

theorem pairwise_wordMembers (base : Nat) (word : BitVec 64) :
    (wordMembers base word).Pairwise (· < ·) := by
  unfold wordMembers
  split
  · exact .nil
  · refine (List.pairwise_lt_range.filter _).map _ ?_
    intro a b h
    omega

theorem pairwise_toList_go (base : Nat) (words : List (BitVec 64)) :
    (toList.go base words).Pairwise (· < ·) := by
  induction words generalizing base with
  | nil => exact .nil
  | cons word words ih =>
    refine List.pairwise_append.mpr ⟨pairwise_wordMembers base word, ih (base + 64), ?_⟩
    intro a ha b hb
    have hlow := (mem_wordMembers ..).mp ha
    have hhigh := (mem_toList_go ..).mp hb
    omega

theorem pairwise_toList (b : Bitmap) : b.toList.Pairwise (· < ·) := pairwise_toList_go 0 _

theorem mem_toList (b : Bitmap) (id : Nat) : id ∈ b.toList ↔ b.contains id = true := by
  simp only [toList, mem_toList_go, contains]
  cases h : b.words[id / 64]? <;> simp_all

end TrackStore.Bitmap
