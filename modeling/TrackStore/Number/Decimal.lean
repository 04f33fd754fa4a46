import TrackStore.Number.Binary

/-! # Reading decimals

The double nearest to a decimal; of two equally near the one with the even mantissa, and infinity
from half a step beyond the greatest. Decimal text is digits with an optional sign, fraction and
exponent.
-/

namespace TrackStore.Binary64

/-- A fraction rounded to a whole number, a half to the even one. -/
def roundHalfEven (num den : Nat) : Nat :=
  let below := num / den
  let twice := 2 * (num % den)
  if twice < den then below
  else if den < twice then below + 1
  else below + below % 2

/-- The fraction `num / den` times `2 ^ k`, as a fraction. -/
def scaleFraction (num den : Nat) (k : Int) : Nat × Nat :=
  if 0 ≤ k then (num * Nat.pow 2 k.natAbs, den) else (num, den * Nat.pow 2 k.natAbs)

/-- The power of two that gives a fraction 53 bits before the point, as far as a double can. -/
def mantissaShift (num den : Nat) : Int :=
  let k : Int := 53 - (num.log2 - den.log2 : Int)
  let (n, d) := scaleFraction num den k
  min 1074 (if 2 * exponentWeight ≤ n / d then k - 1 else k)

/-- The magnitude of the double nearest to a positive fraction. -/
def magnitudeOfFraction (num den : Nat) : Nat :=
  let k := mantissaShift num den
  let (n, d) := scaleFraction num den k
  min infinityMagnitude ((1074 - k).toNat * exponentWeight + roundHalfEven n d)

def ofMagnitude (negative : Bool) (magnitude : Nat) : Binary64 :=
  ⟨UInt64.ofNat (magnitude + if negative then signWeight else 0)⟩

/-- The double nearest to `digits * 10 ^ exponent`, or to its opposite. -/
def ofDecimal (negative : Bool) (digits : Nat) (exponent : Int) : Binary64 :=
  let places : Int := (Nat.toDigits 10 digits).length + exponent
  ofMagnitude negative <|
    if digits = 0 ∨ places < -400 then 0
    else if 400 < places then infinityMagnitude
    else if 0 ≤ exponent then magnitudeOfFraction (digits * Nat.pow 10 exponent.natAbs) 1
    else magnitudeOfFraction digits (Nat.pow 10 exponent.natAbs)

def digitsValue (cs : List Char) : Nat := cs.foldl (fun n c => 10 * n + (c.toNat - 48)) 0

/-- Digits after a sign, or digits alone. -/
def signed? (cs : List Char) : Option Int :=
  let (negative, cs) := match cs with
    | '-' :: cs => (true, cs)
    | '+' :: cs => (false, cs)
    | cs => (false, cs)
  if cs.isEmpty || !cs.all Char.isDigit then none
  else some (if negative then -digitsValue cs else digitsValue cs)

def ofChars? (negative : Bool) (cs : List Char) : Option Binary64 := do
  let whole := cs.takeWhile Char.isDigit
  let (fraction, rest) := match cs.dropWhile Char.isDigit with
    | '.' :: cs => (cs.takeWhile Char.isDigit, cs.dropWhile Char.isDigit)
    | cs => ([], cs)
  let exponent : Int ← match rest with
    | [] => some 0
    | c :: cs => if c == 'e' || c == 'E' then signed? cs else none
  if whole.isEmpty then none
  else some (ofDecimal negative (digitsValue (whole ++ fraction)) (exponent - fraction.length))

/-- Reads decimal text. -/
def ofText? (s : String) : Option Binary64 :=
  match s.toList with
  | '-' :: cs => ofChars? true cs
  | cs => ofChars? false cs

end TrackStore.Binary64
