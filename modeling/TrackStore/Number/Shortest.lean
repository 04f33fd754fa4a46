import TrackStore.Number.Binary

/-! # Shortest decimal text

The text of a number has the fewest digits that read back as it. Of several such texts it is the
nearest to the number, and the greater of two equally near. It is always positional, without an
exponent, and a whole number has no point.
-/

namespace TrackStore.Shortest

/-- The number `digits * 10 ^ exponent`. -/
structure Decimal where
  digits : Nat
  exponent : Int
deriving DecidableEq, Repr

/-- A positive fraction with the ends of the interval of fractions that round to it, all over one
denominator. -/
structure Interval where
  value : Nat
  low : Nat
  high : Nat
  denominator : Nat
  /-- Whether the ends round to the number as well. -/
  closed : Bool
deriving DecidableEq, Repr

/-- The interval of a finite number that is not zero, from its magnitude: the ends lie half way to
the neighbours, and the lower neighbour of a power of two is nearer than the upper. -/
def Interval.ofMagnitude (magnitude : Nat) : Interval :=
  let field := magnitude / Binary64.exponentWeight
  let fraction := magnitude % Binary64.exponentWeight
  let mantissa := if field = 0 then fraction else Binary64.exponentWeight + fraction
  let shift := (if field = 0 then 1 else field) - 1
  let below := if fraction = 0 ∧ 1 < field then 1 else 2
  let scale := Nat.pow 2 shift
  ⟨4 * mantissa * scale, (4 * mantissa - below) * scale, (4 * mantissa + 2) * scale,
    Nat.pow 2 1076, mantissa % 2 = 0⟩

def Interval.admits (i : Interval) (n : Nat) : Bool :=
  if i.closed then i.low ≤ n && n ≤ i.high else i.low < n && n < i.high

/-- The interval in units of `10 ^ exponent`. -/
def Interval.inUnits (i : Interval) (exponent : Int) : Interval :=
  if exponent < 0 then
    let scale := Nat.pow 10 exponent.natAbs
    { i with value := i.value * scale, low := i.low * scale, high := i.high * scale }
  else { i with denominator := i.denominator * Nat.pow 10 exponent.natAbs }

def decimalLength (n : Nat) : Nat := (Nat.toDigits 10 n).length

/-- The exponent `k` with `10 ^ (k - 1) ≤ value < 10 ^ k`. -/
def Interval.decimalExponent (i : Interval) : Int :=
  if i.denominator ≤ i.value then decimalLength (i.value / i.denominator)
  else 1 - (decimalLength ((i.denominator - 1) / i.value) : Int)

/-- The whole number of units in the interval that is nearest to the value, if there is one. -/
def Interval.nearest? (i : Interval) : Option Nat :=
  let below := i.value / i.denominator
  let above := below + 1
  let remainder := i.value % i.denominator
  match i.admits (below * i.denominator), i.admits (above * i.denominator) with
  | true, true => some (if 2 * remainder < i.denominator then below else above)
  | true, false => some below
  | false, true => some above
  | false, false => none

/-- Tries `places` digits, then more, until a decimal lies in the interval. -/
def Interval.shortestFrom (i : Interval) (places : Nat) : (more : Nat) → Decimal
  | 0 => ⟨0, 0⟩
  | more + 1 =>
    let exponent := i.decimalExponent - places
    match (i.inUnits exponent).nearest? with
    | some digits => ⟨digits, exponent⟩
    | none => i.shortestFrom (places + 1) more

/-- Seventeen digits tell any two numbers apart. -/
def shortest (magnitude : Nat) : Decimal := (Interval.ofMagnitude magnitude).shortestFrom 1 17

def dropTrailingZeros (cs : List Char) : List Char := (cs.reverse.dropWhile (· = '0')).reverse

/-- Positional text: the fraction ends in no zero, and without a fraction there is no point. -/
def Decimal.text (d : Decimal) : String :=
  if 0 ≤ d.exponent then toString (d.digits * Nat.pow 10 d.exponent.natAbs)
  else
    let unit := Nat.pow 10 d.exponent.natAbs
    let digits := (Nat.toDigits 10 (d.digits % unit))
    let padded := List.replicate (d.exponent.natAbs - digits.length) '0' ++ digits
    let fraction := String.ofList (dropTrailingZeros padded)
    let whole := toString (d.digits / unit)
    if fraction.isEmpty then whole else whole ++ "." ++ fraction

end TrackStore.Shortest

namespace TrackStore.Binary64

def text (x : Binary64) : String :=
  if x.isNaN then "NaN"
  else
    let sign := if x.isNegative then "-" else ""
    if !x.isFinite then sign ++ "inf"
    else if x.magnitude = 0 then sign ++ "0"
    else sign ++ (Shortest.shortest x.magnitude).text

end TrackStore.Binary64
