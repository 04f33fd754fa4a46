import TrackStore.Number.Decimal
import TrackStore.Toml.Text
import TrackStore.Toml.Value

/-! # TOML numbers and times

Whole numbers have 64 bits and a sign. A number with a fraction or an exponent must not be so great
that it would be read as infinity. Underscores may stand between digits.
-/

namespace TrackStore.Toml

open Scan

/-- Digits of a base, first to last; an underscore may stand before each but the first. -/
def digits (base : Nat) : Scan (List Nat) := do
  let digit : Scan Nat := do
    let d ← hexDigit
    if d < base then return d else failure
  let first ← digit
  let others ← many do
    let _ ← optional (char '_')
    digit
  return first :: others

def ofDigits (base : Nat) (ds : List Nat) : Nat := ds.foldl (fun acc d => base * acc + d) 0

/-- Whether a sign was read, and whether it was a minus. -/
def sign : Scan (Option Bool) :=
  optional ((fun _ => true) <$> char '-' <|> (fun _ => false) <$> char '+')

/-- Decimal digits without a leading zero. -/
def wholeDigits : Scan (List Nat) := do
  let cs ← get
  match cs with
  | '0' :: rest =>
    set rest
    return [0]
  | _ => digits 10

def maxInteger : Int := 0x7fffffffffffffff

def minInteger : Int := -0x8000000000000000

def integerInRange (n : Int) : Scan Value :=
  if minInteger ≤ n ∧ n ≤ maxInteger then return .integer n else failure

/-- A whole number in a base that its first two characters name. -/
def basedInteger (mark : String) (base : Nat) : Scan Value := do
  literal mark
  integerInRange (ofDigits base (← digits base))

def negateIf (negative : Bool) (n : Nat) : Int := if negative then -n else n

/-- A float that is not too great; a number below the least is read as minus infinity. -/
def decimalFloat (negative : Bool) (m : Nat) (exponent : Int) : Scan Value :=
  let x := Binary64.ofDecimal negative m exponent
  if x = .ofMagnitude false Binary64.infinityMagnitude then failure else return .float x

def exponentPart : Scan Int := do
  let _ ← satisfy fun c => c == 'e' || c == 'E'
  let negative ← sign
  return negateIf (negative.getD false) (ofDigits 10 (← digits 10))

def fractionPart : Scan (List Nat) := do
  char '.'
  digits 10

/-- A decimal number; a point or an exponent makes it a float. -/
def decimalNumber : Scan Value := do
  let negative := (← sign).getD false
  let whole ← wholeDigits
  match ← peek with
  | some '.' =>
    let fraction ← fractionPart
    let exponent : Int ← match ← peek with
      | some 'e' | some 'E' => exponentPart
      | _ => pure 0
    decimalFloat negative (ofDigits 10 (whole ++ fraction)) (exponent - fraction.length)
  | some 'e' | some 'E' =>
    let exponent ← exponentPart
    decimalFloat negative (ofDigits 10 whole) exponent
  | _ => integerInRange (negateIf negative (ofDigits 10 whole))

def specialFloat : Scan Value := do
  let negative := (← sign).getD false
  (do
    literal "inf"
    return .float (.ofMagnitude negative Binary64.infinityMagnitude)) <|>
  (do
    literal "nan"
    return .float (.ofMagnitude negative Binary64.quietNaNMagnitude))

/-- A number of exactly `places` digits in a range. -/
def fixedNumber (places low high : Nat) : Scan Nat := do
  let ds ← (List.replicate places ()).mapM fun _ => satisfy Char.isDigit
  let n := ofDigits 10 (ds.map fun c => c.toNat - 48)
  if low ≤ n ∧ n ≤ high then return n else failure

def isLeapYear (year : Nat) : Bool := year % 4 = 0 && (year % 100 ≠ 0 || year % 400 = 0)

def daysIn (year month : Nat) : Nat :=
  if month = 2 then if isLeapYear year then 29 else 28
  else if month = 4 || month = 6 || month = 9 || month = 11 then 30
  else 31

def date : Scan Date := do
  let year ← fixedNumber 4 0 9999
  char '-'
  let month ← fixedNumber 2 1 12
  char '-'
  let day ← fixedNumber 2 1 31
  if day ≤ daysIn year month then return ⟨year, month, day⟩ else failure

def timeFraction : Scan (List Nat) := do
  char '.'
  return (← takeSome Char.isDigit).map fun c => c.toNat - 48

def time : Scan Time := do
  let hour ← fixedNumber 2 0 23
  char ':'
  let minute ← fixedNumber 2 0 59
  char ':'
  let second ← fixedNumber 2 0 60
  return ⟨hour, minute, second, (← optional timeFraction).getD []⟩

def offset : Scan Offset :=
  (do
    let _ ← satisfy fun c => c == 'Z' || c == 'z'
    return ⟨0⟩) <|>
  (do
    let mark ← satisfy fun c => c == '+' || c == '-'
    let hour ← fixedNumber 2 0 23
    char ':'
    let minute ← fixedNumber 2 0 59
    return ⟨negateIf (mark == '-') (60 * hour + minute)⟩)

def timeAfterDate : Scan Time := do
  let _ ← satisfy fun c => c == 'T' || c == 't' || c == ' '
  time

def moment : Scan Moment :=
  (do
    let d ← date
    match ← optional timeAfterDate with
    | none => return .date d
    | some t =>
      match ← optional offset with
      | none => return .localTime d t
      | some o => return .offsetTime d t o) <|>
  Moment.time <$> time

def number : Scan Value :=
  Value.moment <$> moment <|> basedInteger "0x" 16 <|> basedInteger "0o" 8 <|>
    basedInteger "0b" 2 <|> specialFloat <|> decimalNumber

end TrackStore.Toml
