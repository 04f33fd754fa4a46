import TrackStore.Number.Binary

/-! # Boxes and coordinates

A box is given by its least and greatest coordinates, over any kind of number. Nothing keeps the
least below the greatest except `ofCorners`, so widths, heights and areas can be negative. The
overlap of two boxes is measured as intersection over union.

A geographic coordinate is a latitude and a longitude in degrees. Any two numbers make a coordinate;
it is valid when both are finite and within their ranges.
-/

namespace TrackStore

structure Box (α : Type) where
  minX : α
  minY : α
  maxX : α
  maxY : α
deriving DecidableEq, Repr

namespace Box

variable {α : Type}

/-- The box with two given corners, in either order. -/
def ofCorners [Min α] [Max α] (x₀ y₀ x₁ y₁ : α) : Box α :=
  ⟨min x₀ x₁, min y₀ y₁, max x₀ x₁, max y₀ y₁⟩

def width [Sub α] (b : Box α) : α := b.maxX - b.minX

def height [Sub α] (b : Box α) : α := b.maxY - b.minY

def area [Sub α] [Mul α] (b : Box α) : α := b.width * b.height

def center [Add α] [Div α] [OfNat α 2] (b : Box α) : α × α :=
  ((b.minX + b.maxX) / 2, (b.minY + b.maxY) / 2)

/-- A length, or zero where it is not positive. -/
def positivePart [OfNat α 0] [LT α] [DecidableLT α] (x : α) : α := if 0 < x then x else 0

/-- The common area of two boxes. -/
def intersection [Sub α] [Mul α] [Min α] [Max α] [OfNat α 0] [LT α] [DecidableLT α]
    (a b : Box α) : α :=
  positivePart (min a.maxX b.maxX - max a.minX b.minX) *
    positivePart (min a.maxY b.maxY - max a.minY b.minY)

/-- Intersection over union, zero where the union is not positive. -/
def iou [Add α] [Sub α] [Mul α] [Div α] [Min α] [Max α] [OfNat α 0] [LT α] [DecidableLT α]
    [LE α] [DecidableLE α] (a b : Box α) : α :=
  let common := a.intersection b
  let union := a.area + b.area - common
  if union ≤ 0 then 0 else common / union

/-- Numeric equality, side by side. -/
def equals (a b : Box Binary64) : Bool :=
  a.minX.equals b.minX && a.minY.equals b.minY && a.maxX.equals b.maxX && a.maxY.equals b.maxY

end Box

structure Coordinate where
  latitude : Binary64
  longitude : Binary64
deriving DecidableEq, Repr

namespace Coordinate

def isValid (c : Coordinate) : Bool :=
  c.latitude.isFinite && c.longitude.isFinite &&
    c.latitude.abs ≤ 90 && c.longitude.abs ≤ 180

/-- Numeric equality of both parts. -/
def equals (a b : Coordinate) : Bool :=
  a.latitude.equals b.latitude && a.longitude.equals b.longitude

end Coordinate
end TrackStore
