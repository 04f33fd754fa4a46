import TrackStore.Text.Utf8

/-! # Byte codecs

A codec writes values as bytes and reads a value off the front of bytes, leaving the rest. Words
are little endian and of fixed width; text and lists follow a count of 64 bits; an optional value
follows a tag. Codecs of compound values are put together from those of the parts.
-/

namespace TrackStore

/-- Why bytes begin no value. -/
inductive DecodeError where
  | endOfBytes
  /-- A text claims to be longer than the bytes that are left. -/
  | textTooLong
  | notText (error : Utf8.Error)
  | invalidBool (found : Nat)
  | invalidChar
  | invalidTag (found : Nat)
  | invalidVariant (found count : Nat)
deriving DecidableEq, Repr

def DecodeError.message : DecodeError → String
  | endOfBytes => "io error: unexpected end of file"
  | textTooLong => "io error: "
  | notText error => s!"string is not valid utf8: {error.message}"
  | invalidBool found => s!"invalid u8 while decoding bool, expected 0 or 1, found {found}"
  | invalidChar => "char is not valid"
  | invalidTag found => s!"tag for enum is not valid, found {found}"
  | invalidVariant found count =>
    "invalid value: integer \x60" ++ toString found ++ "\x60, expected variant index 0 <= i < " ++
      toString count

/-- Reads off the front of the bytes that are left. -/
abbrev Reader := StateT Bytes (Except DecodeError)

structure Codec (α : Type) where
  encode : α → Bytes
  decode : Reader α

namespace Codec

variable {α β : Type}

def littleEndian : (width value : Nat) → Bytes
  | 0, _ => []
  | width + 1, value => .ofNat (value % 256) :: littleEndian width (value / 256)

def ofLittleEndian : Bytes → Nat
  | [] => 0
  | b :: bytes => b.toNat + 256 * ofLittleEndian bytes

theorem length_littleEndian (width value : Nat) : (littleEndian width value).length = width := by
  induction width generalizing value with
  | zero => rfl
  | succ width ih => simp [littleEndian, ih]

theorem littleEndian_ofLittleEndian (bytes : Bytes) :
    littleEndian bytes.length (ofLittleEndian bytes) = bytes := by
  induction bytes with
  | nil => rfl
  | cons b bytes ih =>
    have hb := b.toNat_lt
    have hmod : (b.toNat + 256 * ofLittleEndian bytes) % 256 = b.toNat := by omega
    have hdiv : (b.toNat + 256 * ofLittleEndian bytes) / 256 = ofLittleEndian bytes := by omega
    simp [ofLittleEndian, littleEndian, hmod, hdiv, ih]

def takeBytes (n : Nat) : Reader Bytes := fun bytes =>
  if n ≤ bytes.length then .ok (bytes.take n, bytes.drop n) else .error .endOfBytes

def byte : Codec UInt8 where
  encode b := [b]
  decode
    | [] => .error .endOfBytes
    | b :: rest => .ok (b, rest)

/-- Words of `width` bytes. -/
def word (width : Nat) : Codec (BitVec (8 * width)) where
  encode w := littleEndian width w.toNat
  decode := return .ofNat _ (ofLittleEndian (← takeBytes width))

/-- Counts are words of eight bytes. -/
def count : Codec Nat where
  encode n := (word 8).encode (.ofNat _ n)
  decode := return (← (word 8).decode).toNat

def unit : Codec Unit where
  encode _ := []
  decode := return ()

def bool : Codec Bool where
  encode b := [if b then 1 else 0]
  decode := do
    let b ← byte.decode
    if b = 0 then return false
    else if b = 1 then return true
    else throw (.invalidBool b.toNat)

/-- A character is its UTF-8 bytes; the first tells how many there are. -/
def char : Codec Char where
  encode := Utf8.encodeChar
  decode
    | [] => .error .endOfBytes
    | b :: rest => (Utf8.decodeChar (b :: rest)).mapError fun _ => .invalidChar

/-- The characters of a text of `length` bytes. -/
def textOfLength (length : Nat) : Reader String := fun bytes =>
  if bytes.length < length then .error .textTooLong
  else
    match Utf8.decode (bytes.take length) with
    | .ok cs => .ok (.ofList cs, bytes.drop length)
    | .error e => .error (.notText e)

/-- Text is its length in bytes and its UTF-8 bytes. -/
def text : Codec String where
  encode s := count.encode (Utf8.encode s.toList).length ++ Utf8.encode s.toList
  decode := do textOfLength (← count.decode)

def option (c : Codec α) : Codec (Option α) where
  encode
    | none => [0]
    | some v => 1 :: c.encode v
  decode := do
    let tag ← byte.decode
    if tag = 0 then return none
    else if tag = 1 then return some (← c.decode)
    else throw (.invalidTag tag.toNat)

def encodeMany (c : Codec α) (items : List α) : Bytes := items.flatMap c.encode

/-- Lists of a length known beforehand. -/
abbrev Exactly (n : Nat) (α : Type) := { items : List α // items.length = n }

def decodeMany (c : Codec α) : (n : Nat) → Reader (Exactly n α)
  | 0 => return ⟨[], rfl⟩
  | n + 1 => do
    let first ← c.decode
    let others ← decodeMany c n
    return ⟨first :: others.val, congrArg (· + 1) others.property⟩

/-- A list is its length and its items. -/
def list (c : Codec α) : Codec (List α) where
  encode items := count.encode items.length ++ c.encodeMany items
  decode := do return (← c.decodeMany (← count.decode)).val

/-- Items of which there are always `n` need no length. -/
def array (n : Nat) (c : Codec α) : Codec (Exactly n α) where
  encode items := c.encodeMany items.val
  decode := c.decodeMany n

def pair (a : Codec α) (b : Codec β) : Codec (α × β) where
  encode v := a.encode v.1 ++ b.encode v.2
  decode := return (← a.decode, ← b.decode)

/-- The codec of a type in correspondence with another. -/
def iso (c : Codec α) (wrap : α → β) (unwrap : β → α) : Codec β where
  encode v := c.encode (unwrap v)
  decode := return wrap (← c.decode)

/-- One of the `choices` is its index, a word of four bytes. -/
def choice [DecidableEq α] (choices : List α) : Codec α where
  encode v := (word 4).encode (.ofNat _ (choices.idxOf v))
  decode := do
    let index := (← (word 4).decode).toNat
    match choices[index]? with
    | some v => return v
    | none => throw (.invalidVariant index choices.length)

end Codec
end TrackStore
