/-! # Growable sets of row numbers

A set of numbers kept as bits of 64-bit words, with the count of set bits beside it. The set
grows in whole words, at least doubling when a number beyond its room is inserted. A number
beyond the room is not a member.
-/

namespace TrackStore

structure Bitmap where
  words : Array (BitVec 64)
  /-- How many numbers are members. -/
  count : Nat
deriving DecidableEq, Repr

namespace Bitmap

def wordsFor (room : Nat) : Nat := (room + 63) / 64

/-- An empty set with room for the numbers below `room`. -/
def withCapacity (room : Nat) : Bitmap := ⟨.replicate (wordsFor room) 0, 0⟩

/-- The numbers below this one can become members without growth. -/
def capacity (b : Bitmap) : Nat := 64 * b.words.size

def contains (b : Bitmap) (id : Nat) : Bool :=
  match b.words[id / 64]? with
  | some word => word.getLsbD (id % 64)
  | none => false

/-- Makes room for the numbers below `room`; never gives room back. -/
def reserve (b : Bitmap) (room : Nat) : Bitmap :=
  if room ≤ b.capacity then b
  else { b with words := b.words ++ .replicate (wordsFor room - b.words.size) 0 }

/-- Room enough for `id`, doubled at least when it was not there. -/
def grow (b : Bitmap) (id : Nat) : Bitmap :=
  if id < b.capacity then b else b.reserve (max (id + 1) (2 * b.capacity))

def bit (id : Nat) : BitVec 64 := BitVec.twoPow 64 (id % 64)

def insert (b : Bitmap) (id : Nat) : Bitmap :=
  let b := b.grow id
  if b.contains id then b
  else ⟨b.words.modify (id / 64) (· ||| bit id), b.count + 1⟩

/-- Removes `id`, and says whether it was a member. -/
def erase (b : Bitmap) (id : Nat) : Bool × Bitmap :=
  if b.contains id then
    (true, ⟨b.words.modify (id / 64) (· &&& ~~~(bit id)), b.count - 1⟩)
  else (false, b)

/-- The numbers from `base` on whose bit is set in `word`. -/
def wordMembers (base : Nat) (word : BitVec 64) : List Nat :=
  if word = 0 then []
  else ((List.range 64).filter (word.getLsbD ·)).map (base + ·)

/-- The members in ascending order. -/
def toList (b : Bitmap) : List Nat :=
  go 0 b.words.toList
where
  go (base : Nat) : List (BitVec 64) → List Nat
    | [] => []
    | word :: words => wordMembers base word ++ go (base + 64) words

end Bitmap
end TrackStore
