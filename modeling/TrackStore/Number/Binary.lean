/-! # Binary floating point numbers

A number is its bits, 64 for double precision and 32 for single, so that equality of values is
equality of bits. The order and the numeric equality are read off the bits: neither relates a NaN to
anything, and the two zeros are numerically equal. Sums, products and quotients are rounded to
nearest. A double becomes a single by rounding to nearest; a NaN keeps its sign and the top of its
payload.
-/

namespace TrackStore

structure Binary64 where
  bits : UInt64
deriving DecidableEq, Repr

namespace Binary64

/-- The weight of the sign bit. -/
def signWeight : Nat := 0x8000000000000000

/-- The weight of the last bit of the exponent. -/
def exponentWeight : Nat := 0x10000000000000

/-- The bits below the sign. -/
def magnitude (x : Binary64) : Nat := x.bits.toNat % signWeight

def isNegative (x : Binary64) : Bool := signWeight ≤ x.bits.toNat

/-- The magnitude of infinity; a greater one is a NaN. -/
def infinityMagnitude : Nat := 0x7ff0000000000000

def quietNaNMagnitude : Nat := 0x7ff8000000000000

def isNaN (x : Binary64) : Bool := infinityMagnitude < x.magnitude

def isFinite (x : Binary64) : Bool := x.magnitude < infinityMagnitude

/-- The place of a number among all that are not NaN; the two zeros share theirs. -/
def rank (x : Binary64) : Int := if x.isNegative then -x.magnitude else x.magnitude

/-- Numeric equality. -/
def equals (x y : Binary64) : Bool := !x.isNaN && !y.isNaN && x.rank == y.rank

def less (x y : Binary64) : Bool := !x.isNaN && !y.isNaN && x.rank < y.rank

def lessEq (x y : Binary64) : Bool := !x.isNaN && !y.isNaN && x.rank ≤ y.rank

instance : LT Binary64 := ⟨fun x y => x.less y = true⟩

instance : LE Binary64 := ⟨fun x y => x.lessEq y = true⟩

instance (x y : Binary64) : Decidable (x < y) := inferInstanceAs (Decidable (x.less y = true))

instance (x y : Binary64) : Decidable (x ≤ y) := inferInstanceAs (Decidable (x.lessEq y = true))

/-- The smaller number; a NaN gives way, and of equal numbers the second is taken. -/
instance : Min Binary64 := ⟨fun x y => if y.isNaN then x else if x < y then x else y⟩

/-- The greater number; a NaN gives way, and of equal numbers the second is taken. -/
instance : Max Binary64 := ⟨fun x y => if y.isNaN then x else if y < x then x else y⟩

def abs (x : Binary64) : Binary64 := ⟨UInt64.ofNat x.magnitude⟩

theorem magnitude_lt (x : Binary64) : x.magnitude < signWeight := Nat.mod_lt _ (by decide)

theorem toNat_abs (x : Binary64) : x.abs.bits.toNat = x.magnitude :=
  Nat.mod_eq_of_lt (Nat.lt_trans x.magnitude_lt (by decide))

theorem magnitude_abs (x : Binary64) : x.abs.magnitude = x.magnitude := by
  rw [magnitude, toNat_abs, Nat.mod_eq_of_lt x.magnitude_lt]

/-- Numbers that are not negative stand in the order of their bits. -/
theorem abs_le_iff (x : Binary64) {y : Binary64} (hy : y.bits.toNat ≤ infinityMagnitude) :
    x.abs ≤ y ↔ x.magnitude ≤ y.bits.toNat := by
  have hsign : y.bits.toNat < signWeight := Nat.lt_of_le_of_lt hy (by decide)
  have hnum : y.magnitude = y.bits.toNat := Nat.mod_eq_of_lt hsign
  have hpos : y.isNegative = false := by simpa [isNegative] using hsign
  have habs : x.abs.isNegative = false := by simpa [isNegative, toNat_abs] using x.magnitude_lt
  show lessEq _ _ = true ↔ _
  simp only [lessEq, isNaN, rank, habs, hpos, magnitude_abs, hnum, Bool.false_eq_true, if_false,
    Bool.and_eq_true, Bool.not_eq_true', decide_eq_false_iff_not, decide_eq_true_eq]
  omega

def ofFloat (x : Float) : Binary64 := ⟨x.toBits⟩

def toFloat (x : Binary64) : Float := Float.ofBits x.bits

/-- A whole number; exact below `2 ^ 53`. -/
def ofNat (n : Nat) : Binary64 :=
  if n = 0 then ⟨0⟩
  else ⟨UInt64.ofNat ((1022 + n.log2) * exponentWeight + n * Nat.pow 2 (52 - n.log2))⟩

instance (n : Nat) : OfNat Binary64 n := ⟨ofNat n⟩

instance : Add Binary64 := ⟨fun x y => ofFloat (x.toFloat + y.toFloat)⟩

instance : Sub Binary64 := ⟨fun x y => ofFloat (x.toFloat - y.toFloat)⟩

instance : Mul Binary64 := ⟨fun x y => ofFloat (x.toFloat * y.toFloat)⟩

instance : Div Binary64 := ⟨fun x y => ofFloat (x.toFloat / y.toFloat)⟩

end Binary64

structure Binary32 where
  bits : UInt32
deriving DecidableEq, Repr

namespace Binary32

/-- The weight of the sign bit. -/
def signWeight : Nat := 0x80000000

def magnitude (x : Binary32) : Nat := x.bits.toNat % signWeight

def isNegative (x : Binary32) : Bool := signWeight ≤ x.bits.toNat

def isNaN (x : Binary32) : Bool := 0x7f800000 < x.magnitude

def rank (x : Binary32) : Int := if x.isNegative then -x.magnitude else x.magnitude

/-- Numeric equality. -/
def equals (x y : Binary32) : Bool := !x.isNaN && !y.isNaN && x.rank == y.rank

def quietBit : UInt64 := 0x400000

def ofBinary64 (x : Binary64) : Binary32 :=
  if x.isNaN then
    let sign := if x.isNegative then (0x80000000 : UInt64) else 0
    let payload := (x.bits >>> 29) &&& 0x7fffff
    ⟨(sign ||| 0x7f800000 ||| quietBit ||| payload).toUInt32⟩
  else ⟨x.toFloat.toFloat32.toBits⟩

end Binary32
end TrackStore
