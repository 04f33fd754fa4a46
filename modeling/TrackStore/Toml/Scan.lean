/-! # Scanning text

Readers of the front of a text. A reader that fails leaves no answer, and an alternative starts
again where it did.
-/

namespace TrackStore.Toml

/-- Reads off the front of the characters that are left. -/
abbrev Scan := StateT (List Char) Option

namespace Scan

variable {α : Type}

/-- The next character, which stays. -/
def peek : Scan (Option Char) := fun cs => some (cs.head?, cs)

def satisfy (p : Char → Bool) : Scan Char
  | c :: cs => if p c then some (c, cs) else none
  | [] => none

def char (c : Char) : Scan Unit := do
  let _ ← satisfy (· == c)

/-- The longest front whose characters all have a property. -/
def takeWhile (p : Char → Bool) : Scan (List Char) := fun cs =>
  some (cs.takeWhile p, cs.dropWhile p)

/-- Characters with a property, one at least. -/
def takeSome (p : Char → Bool) : Scan (List Char) := do
  let cs ← takeWhile p
  if cs.isEmpty then failure
  return cs

/-- One given text. -/
def literal (expected : String) : Scan Unit := fun cs =>
  if expected.toList.isPrefixOf cs then some ((), cs.drop expected.toList.length) else none

/-- Repeats a reader until it fails, or reads nothing. -/
def many (p : Scan α) : Scan (List α) := fun cs => some (go cs)
where
  go (cs : List Char) : List α × List Char :=
    match p.run cs with
    | some (a, rest) =>
      if rest.length < cs.length then
        let (others, rest) := go rest
        (a :: others, rest)
      else ([], cs)
    | none => ([], cs)
  termination_by cs.length

/-- Items with a separator between them, one at least. -/
def separated (item : Scan α) (separator : Scan Unit) : Scan (List α) := do
  let first ← item
  let others ← many do
    separator
    item
  return first :: others

/-- The end of the text. -/
def atEnd : Scan Unit
  | [] => some ((), [])
  | _ :: _ => none

end Scan
end TrackStore.Toml
