import Mathlib.Data.List.Perm.Subperm
import TrackStore.Proofs.Counts.Rows

/-! # Bitmaps in machine words

The operations of a bitmap on numbers of 64 bits. There is no answer where a sum or a product does
not fit, where more is taken away than there is, or where an index is beyond the array. The capacity
is a number of its own here, kept beside the words. As long as all sizes fit, every operation has an
answer, and it is the one on numbers without bound.
-/

namespace TrackStore

namespace Word

/-- The least number that a machine word does not hold. -/
def limit : Nat := 0x10000000000000000

def add? (a b : Nat) : Option Nat := if a + b < limit then some (a + b) else none

def mul? (a b : Nat) : Option Nat := if a * b < limit then some (a * b) else none

def sub? (a b : Nat) : Option Nat := if b ≤ a then some (a - b) else none

theorem add?_of_lt {a b : Nat} (h : a + b < limit) : add? a b = some (a + b) := if_pos h

theorem mul?_of_lt {a b : Nat} (h : a * b < limit) : mul? a b = some (a * b) := if_pos h

theorem sub?_of_le {a b : Nat} (h : b ≤ a) : sub? a b = some (a - b) := if_pos h

end Word

open Word

structure WordBitmap where
  words : Array (BitVec 64)
  capacity : Nat
  count : Nat
deriving DecidableEq, Repr

namespace WordBitmap

/-- Cuts the words down to a length, or fills them up with empty ones. -/
def resized (words : Array (BitVec 64)) (size : Nat) : Array (BitVec 64) :=
  words.take size ++ .replicate (size - words.size) 0

def withCapacity? (room : Nat) : Option WordBitmap := do
  let size := (← add? room 63) / 64
  return ⟨.replicate size 0, ← mul? size 64, 0⟩

def contains? (b : WordBitmap) (id : Nat) : Option Bool :=
  if b.capacity ≤ id then some false
  else do
    let word ← b.words[id / 64]?
    return word &&& Bitmap.bit id != 0

def reserve? (b : WordBitmap) (room : Nat) : Option WordBitmap :=
  if room ≤ b.capacity then some b
  else do
    let size := (← add? room 63) / 64
    return { b with words := resized b.words size, capacity := ← mul? size 64 }

def grow? (b : WordBitmap) (id : Nat) : Option WordBitmap :=
  if b.capacity ≤ id then do
    b.reserve? (max (← add? id 1) (← mul? b.capacity 2))
  else some b

def insert? (b : WordBitmap) (id : Nat) : Option WordBitmap := do
  let b ← b.grow? id
  let word ← b.words[id / 64]?
  if word &&& Bitmap.bit id == 0 then
    return { b with
      words := b.words.modify (id / 64) fun _ => word ||| Bitmap.bit id
      count := ← add? b.count 1 }
  else return b

def erase? (b : WordBitmap) (id : Nat) : Option (Bool × WordBitmap) := do
  if ← b.contains? id then
    let word ← b.words[id / 64]?
    return (true, { b with
      words := b.words.modify (id / 64) fun _ => word &&& ~~~(Bitmap.bit id)
      count := ← sub? b.count 1 })
  else return (false, b)

end WordBitmap

namespace Bitmap

/-- The bitmap with its capacity written down. -/
def inWords (b : Bitmap) : WordBitmap := ⟨b.words, b.capacity, b.count⟩

@[simp] theorem words_inWords (b : Bitmap) : b.inWords.words = b.words := rfl

@[simp] theorem capacity_inWords (b : Bitmap) : b.inWords.capacity = b.capacity := rfl

@[simp] theorem count_inWords (b : Bitmap) : b.inWords.count = b.count := rfl

theorem and_bit_eq_zero (word : BitVec 64) (id : Nat) :
    (word &&& bit id == 0) = !word.getLsbD (id % 64) := by
  have hbit : bit id ≠ 0 := by
    intro h
    have hself := getLsbD_bit id id
    simp [h] at hself
  rw [bit, BitVec.and_twoPow, ← bit]
  cases word.getLsbD (id % 64) with
  | false => simp
  | true => simpa using hbit

theorem getElem?_of_lt_capacity {b : Bitmap} {id : Nat} (h : id < b.capacity) :
    ∃ word, b.words[id / 64]? = some word ∧ word.getLsbD (id % 64) = b.contains id := by
  have hsize : id / 64 < b.words.size := by
    unfold capacity at h
    omega
  refine ⟨b.words[id / 64], Array.getElem?_eq_getElem hsize, ?_⟩
  simp only [contains, Array.getElem?_eq_getElem hsize]

theorem lt_capacity_of_contains {b : Bitmap} {id : Nat} (h : b.contains id = true) :
    id < b.capacity := by
  by_contra hge
  have hsize : b.words.size ≤ id / 64 := by
    unfold capacity at hge
    omega
  simp [contains, Array.getElem?_eq_none hsize] at h

/-- A word that was read is written back changed. -/
theorem modify_read {words : Array (BitVec 64)} {i : Nat} {word : BitVec 64}
    (h : words[i]? = some word) (f : BitVec 64 → BitVec 64) :
    words.modify i (fun _ => f word) = words.modify i f := by
  refine Array.ext_getElem? fun j => ?_
  rw [Array.getElem?_modify, Array.getElem?_modify]
  split
  next hij => rw [← hij, h, Option.map_some, Option.map_some]
  next => rfl

theorem capacity_reserve {b : Bitmap} {room : Nat} (h : b.capacity < room) :
    (b.reserve room).capacity = wordsFor room * 64 := by
  rw [reserve, if_neg (Nat.not_le_of_lt h)]
  simp only [capacity, wordsFor, Array.size_append, Array.size_replicate] at *
  omega

theorem words_reserve {b : Bitmap} {room : Nat} (h : b.capacity < room) :
    (b.reserve room).words = WordBitmap.resized b.words (wordsFor room) := by
  have hsize : b.words.size ≤ wordsFor room := by
    unfold capacity at h
    unfold wordsFor
    omega
  have htake : b.words.take (wordsFor room) = b.words := by
    rw [Array.take_eq_extract, Array.extract_eq_self_of_le hsize]
  rw [reserve, if_neg (Nat.not_le_of_lt h), WordBitmap.resized, htake]

theorem capacity_insert (b : Bitmap) (id : Nat) :
    (b.insert id).capacity = (b.grow id).capacity := by
  simp only [insert]
  split
  · rfl
  · simp [capacity]

theorem capacity_erase (b : Bitmap) (id : Nat) : (b.erase id).2.capacity = b.capacity := by
  unfold erase
  split
  · simp [capacity]
  · rfl

/-- The members are below the capacity, so there are no more of them. -/
theorem Counted.count_le {b : Bitmap} (h : b.Counted) : b.count ≤ b.capacity := by
  have hsub : b.toList ⊆ List.range b.capacity := by
    intro id hid
    exact List.mem_range.mpr (lt_capacity_of_contains ((mem_toList b id).mp hid))
  have hlength := (List.subperm_of_subset b.nodup_toList hsub).length_le
  rwa [List.length_range, ← h] at hlength

/-- What comes up fits into words where the room of a bitmap is asked for. -/
def ReserveFits (b : Bitmap) (room : Nat) : Prop := b.capacity < room → room + 63 < limit

/-- What comes up fits into words where a bitmap grows for the sake of a number. -/
def GrowthFits (b : Bitmap) (id : Nat) : Prop :=
  b.capacity ≤ id → max (id + 1) (2 * b.capacity) + 63 < limit

instance (b : Bitmap) (room : Nat) : Decidable (b.ReserveFits room) :=
  inferInstanceAs (Decidable (_ → _))

instance (b : Bitmap) (id : Nat) : Decidable (b.GrowthFits id) :=
  inferInstanceAs (Decidable (_ → _))

theorem capacity_reserve_lt {b : Bitmap} {room : Nat} (hb : b.capacity < limit)
    (h : b.ReserveFits room) : (b.reserve room).capacity < limit := by
  by_cases hle : room ≤ b.capacity
  · rwa [reserve, if_pos hle]
  · have hgt : b.capacity < room := Nat.lt_of_not_le hle
    have hfits := h hgt
    rw [capacity_reserve hgt, wordsFor]
    omega

theorem capacity_grow_lt {b : Bitmap} {id : Nat} (hb : b.capacity < limit)
    (h : b.GrowthFits id) : (b.grow id).capacity < limit := by
  unfold grow
  split
  · exact hb
  next hge => exact capacity_reserve_lt hb fun _ => h (Nat.le_of_not_lt hge)

theorem withCapacity?_eq {room : Nat} (h : room + 63 < limit) :
    WordBitmap.withCapacity? room = some (withCapacity room).inWords := by
  have hsize : (room + 63) / 64 * 64 < limit := by omega
  simp only [WordBitmap.withCapacity?, add?_of_lt h, mul?_of_lt hsize, inWords, withCapacity,
    capacity, wordsFor, Array.size_replicate, Option.pure_def, Option.bind_eq_bind,
    Option.bind_some, Nat.mul_comm]

theorem contains?_eq (b : Bitmap) (id : Nat) : b.inWords.contains? id = some (b.contains id) := by
  unfold WordBitmap.contains?
  by_cases hge : b.capacity ≤ id
  · have hcontains : b.contains id = false :=
      Bool.eq_false_iff.mpr fun h => Nat.not_lt_of_le hge (lt_capacity_of_contains h)
    rw [capacity_inWords, if_pos hge, hcontains]
  · obtain ⟨word, hword, hbit⟩ := getElem?_of_lt_capacity (Nat.lt_of_not_le hge)
    have htest : (word &&& bit id != 0) = b.contains id := by
      rw [bne, and_bit_eq_zero, hbit, Bool.not_not]
    rw [capacity_inWords, if_neg hge, words_inWords, hword, Option.bind_eq_bind, Option.bind_some,
      htest]
    rfl

theorem reserve?_eq {b : Bitmap} {room : Nat} (h : b.ReserveFits room) :
    b.inWords.reserve? room = some (b.reserve room).inWords := by
  unfold WordBitmap.reserve?
  by_cases hle : room ≤ b.capacity
  · rw [capacity_inWords, if_pos hle, reserve, if_pos hle]
  · have hgt : b.capacity < room := Nat.lt_of_not_le hle
    have hroom := h hgt
    have hsize : (room + 63) / 64 * 64 < limit := by omega
    rw [capacity_inWords, if_neg hle, add?_of_lt hroom]
    simp only [Option.bind_eq_bind, Option.bind_some, mul?_of_lt hsize]
    rw [inWords, inWords, words_reserve hgt, capacity_reserve hgt, count_reserve]
    rfl

theorem grow?_eq {b : Bitmap} {id : Nat} (h : b.GrowthFits id) :
    b.inWords.grow? id = some (b.grow id).inWords := by
  unfold WordBitmap.grow?
  by_cases hge : b.capacity ≤ id
  · have hfits := h hge
    have hid : id + 1 < limit := by omega
    have hdouble : b.capacity * 2 < limit := by omega
    rw [capacity_inWords, if_pos hge, add?_of_lt hid, mul?_of_lt hdouble, Nat.mul_comm b.capacity,
      grow, if_neg (Nat.not_lt_of_le hge)]
    exact reserve?_eq fun _ => hfits
  · rw [capacity_inWords, if_neg hge, grow, if_pos (Nat.lt_of_not_le hge)]

theorem insert?_eq {b : Bitmap} (hcount : b.Counted) (hb : b.capacity < limit) {id : Nat}
    (h : b.GrowthFits id) : b.inWords.insert? id = some (b.insert id).inWords := by
  obtain ⟨word, hword, hbit⟩ := getElem?_of_lt_capacity (lt_capacity_grow b id)
  have htest : (word &&& bit id == 0) = !b.contains id := by
    rw [and_bit_eq_zero, hbit, contains_grow]
  simp only [WordBitmap.insert?, grow?_eq h, words_inWords, count_inWords, hword, htest,
    Option.bind_eq_bind, Option.bind_some]
  cases hid : b.contains id with
  | true => simp [insert, hid]
  | false =>
    -- The number of members is below the capacity afterwards, so it still fits.
    have hsum : (b.grow id).count + 1 < limit := by
      have hle := (hcount.insert id).count_le
      have hlt := capacity_grow_lt hb h
      rw [capacity_insert, count_insert, hid, if_neg Bool.false_ne_true] at hle
      rw [count_grow]
      omega
    rw [add?_of_lt hsum, modify_read hword (· ||| bit id)]
    simp [insert, hid, inWords, capacity]

theorem erase?_eq {b : Bitmap} (hcount : b.Counted) (id : Nat) :
    b.inWords.erase? id = some ((b.erase id).1, (b.erase id).2.inWords) := by
  simp only [WordBitmap.erase?, contains?_eq, Option.bind_eq_bind, Option.bind_some]
  cases hid : b.contains id with
  | false => simp [erase, hid]
  | true =>
    obtain ⟨word, hword, -⟩ := getElem?_of_lt_capacity (lt_capacity_of_contains hid)
    have hpos : 1 ≤ b.count := by
      rw [hcount]
      exact List.length_pos_of_mem ((mem_toList b id).mpr hid)
    simp only [words_inWords, count_inWords, hword, Option.bind_some, sub?_of_le hpos,
      modify_read hword (· &&& ~~~(bit id))]
    simp [erase, hid, inWords, capacity]

end Bitmap
end TrackStore
