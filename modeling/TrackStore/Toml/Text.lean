import TrackStore.Toml.Scan

/-! # TOML texts

Blanks, comments and the four kinds of quoted text. No kind holds a control character other than
the tab, and only those with three quotes hold line ends.
-/

namespace TrackStore.Toml

open Scan

def isBlank (c : Char) : Bool := c == ' ' || c == '\t'

/-- What may stand in a comment or between quotes. -/
def isPlain (c : Char) : Bool := c == '\t' || (' ' ≤ c && c ≠ '\x7f')

def blanks : Scan Unit := do
  let _ ← takeWhile isBlank

def newline : Scan Unit := literal "\n" <|> literal "\r\n"

def comment : Scan Unit := do
  char '#'
  let _ ← takeWhile isPlain

/-- The end of a line that has nothing more to say. -/
def lineEnd : Scan Unit := do
  blanks
  let _ ← optional comment
  newline <|> atEnd

/-- Blanks, line ends, and comments that a line end follows. -/
def gap : Scan Unit := do
  let _ ← many do
    blanks
    let _ ← optional comment
    newline
  blanks

def hexValue? (c : Char) : Option Nat :=
  if '0' ≤ c ∧ c ≤ '9' then some (c.toNat - 48)
  else if 'a' ≤ c ∧ c ≤ 'f' then some (c.toNat - 87)
  else if 'A' ≤ c ∧ c ≤ 'F' then some (c.toNat - 55)
  else none

def hexDigit : Scan Nat := do
  match hexValue? (← satisfy fun _ => true) with
  | some n => return n
  | none => failure

/-- The character whose number follows in `digits` digits. -/
def codePoint (digits : Nat) : Scan Char := do
  let ns ← (List.replicate digits ()).mapM fun _ => hexDigit
  let n := ns.foldl (fun acc d => 16 * acc + d) 0
  if n.isValidChar then return Char.ofNat n else failure

/-- What a backslash stands for with the characters after it. -/
def escaped : Scan Char := do
  char '\\'
  match ← satisfy fun _ => true with
  | 'b' => return '\x08'
  | 't' => return '\t'
  | 'n' => return '\n'
  | 'f' => return '\x0c'
  | 'r' => return '\r'
  | '"' => return '"'
  | '\\' => return '\\'
  | 'u' => codePoint 4
  | 'U' => codePoint 8
  | _ => failure

/-- Text between double quotes on one line. -/
def basicText : Scan String := do
  char '"'
  let cs ← many (satisfy (fun c => isPlain c && c ≠ '"' && c ≠ '\\') <|> escaped)
  char '"'
  return .ofList cs

/-- Text between single quotes on one line, in which nothing is escaped. -/
def literalText : Scan String := do
  char '\x27'
  let cs ← takeWhile fun c => isPlain c && c ≠ '\x27'
  char '\x27'
  return .ofList cs

/-- One or two quotes inside a text that three quotes end. -/
def innerQuotes (quote : Char) : Scan (List Char) := do
  let cs ← takeSome (· == quote)
  if cs.length < 3 then return cs else failure

/-- The three quotes that end a text, after up to two that belong to it. -/
def closingQuotes (quote : Char) : Scan (List Char) := fun cs =>
  let run := (cs.takeWhile (· == quote)).length
  if run < 3 then none
  else
    let inner := min (run - 3) 2
    some (cs.take inner, cs.drop (inner + 3))

def lineBreak : Scan (List Char) := do
  newline
  return ['\n']

/-- A backslash at the end of a line takes away the blanks and line ends that follow. -/
def foldedLine : Scan (List Char) := do
  char '\\'
  blanks
  newline
  let _ ← many do
    blanks
    newline
  blanks
  return []

/-- Text between three double quotes; a line end right after them is not part of it. -/
def multilineBasicText : Scan String := do
  literal "\"\"\""
  let _ ← optional newline
  let parts ← many
    ((fun c => [c]) <$> satisfy (fun c => isPlain c && c ≠ '"' && c ≠ '\\') <|>
      (fun c => [c]) <$> escaped <|> foldedLine <|> lineBreak <|> innerQuotes '"')
  let last ← closingQuotes '"'
  return .ofList (parts.flatten ++ last)

/-- Text between three single quotes; a line end right after them is not part of it. -/
def multilineLiteralText : Scan String := do
  literal "\x27\x27\x27"
  let _ ← optional newline
  let parts ← many
    (takeSome (fun c => isPlain c && c ≠ '\x27') <|> lineBreak <|> innerQuotes '\x27')
  let last ← closingQuotes '\x27'
  return .ofList (parts.flatten ++ last)

def quotedText : Scan String :=
  multilineBasicText <|> basicText <|> multilineLiteralText <|> literalText

def isBareKey (c : Char) : Bool := c.isAlphanum || c == '_' || c == '-'

def simpleKey : Scan String :=
  String.ofList <$> takeSome isBareKey <|> basicText <|> literalText

/-- How many parts a dotted key may have at most. -/
def maxKeyParts : Nat := 79

/-- A key and the keys of the tables around it, outermost first. -/
structure Key where
  path : List String
  last : String
deriving DecidableEq, Repr

/-- Keys with dots between them, with blanks around each. -/
def dottedKey : Scan Key := do
  let part : Scan String := do
    blanks
    let k ← simpleKey
    blanks
    return k
  let parts ← separated part (char '.')
  match parts.getLast? with
  | some last => if parts.length ≤ maxKeyParts then return ⟨parts.dropLast, last⟩ else failure
  | none => failure

end TrackStore.Toml
