/-! # UTF-8

Text as bytes, and bytes as text where they are well formed. A byte sequence that is not text is
refused with the length of its longest well-formed beginning, and with how many bytes after that
cannot begin any text, or that the bytes end inside a character.
-/

namespace TrackStore

abbrev Bytes := List UInt8

namespace Utf8

def encodeChar (c : Char) : Bytes :=
  let n := c.toNat
  if n < 0x80 then [.ofNat n]
  else if n < 0x800 then [.ofNat (0xC0 + n / 0x40), .ofNat (0x80 + n % 0x40)]
  else if n < 0x10000 then
    [.ofNat (0xE0 + n / 0x1000), .ofNat (0x80 + n / 0x40 % 0x40), .ofNat (0x80 + n % 0x40)]
  else
    [.ofNat (0xF0 + n / 0x40000), .ofNat (0x80 + n / 0x1000 % 0x40),
      .ofNat (0x80 + n / 0x40 % 0x40), .ofNat (0x80 + n % 0x40)]

def encode (cs : List Char) : Bytes := cs.flatMap encodeChar

/-- Why bytes begin no character. -/
inductive Fault where
  /-- The first `length` bytes begin no character. -/
  | invalid (length : Nat)
  /-- The bytes end inside a character. -/
  | incomplete
deriving DecidableEq, Repr

/-- What a first byte says of its character: its own bits, how many bytes follow, and the range
of the next one. -/
structure Lead where
  bits : Nat
  following : Nat
  low : Nat
  high : Nat
deriving DecidableEq, Repr

/-- The ranges leave out the overlong forms, the surrogates and what lies above `0x10FFFF`. -/
def Lead.ofByte? (b : Nat) : Option Lead :=
  if b < 0x80 then some ⟨b, 0, 0, 0⟩
  else if b < 0xC2 then none
  else if b < 0xE0 then some ⟨b - 0xC0, 1, 0x80, 0xBF⟩
  else if b = 0xE0 then some ⟨0, 2, 0xA0, 0xBF⟩
  else if b = 0xED then some ⟨0xD, 2, 0x80, 0x9F⟩
  else if b < 0xF0 then some ⟨b - 0xE0, 2, 0x80, 0xBF⟩
  else if b = 0xF0 then some ⟨0, 3, 0x90, 0xBF⟩
  else if b < 0xF4 then some ⟨b - 0xF0, 3, 0x80, 0xBF⟩
  else if b = 0xF4 then some ⟨4, 3, 0x80, 0x8F⟩
  else none

/-- Reads `following` further bytes of a character of which `seen` bytes gave the bits so far. -/
def continued : (following low high bits seen : Nat) → Bytes → Except Fault (Char × Bytes)
  | 0, _, _, bits, _, rest => .ok (Char.ofNat bits, rest)
  | _ + 1, _, _, _, _, [] => .error .incomplete
  | following + 1, low, high, bits, seen, b :: rest =>
    if low ≤ b.toNat ∧ b.toNat ≤ high then
      continued following 0x80 0xBF (bits * 0x40 + (b.toNat - 0x80)) (seen + 1) rest
    else .error (.invalid seen)

/-- The first character and the bytes after it. -/
def decodeChar : Bytes → Except Fault (Char × Bytes)
  | [] => .error .incomplete
  | b :: rest =>
    match Lead.ofByte? b.toNat with
    | none => .error (.invalid 1)
    | some lead => continued lead.following lead.low lead.high lead.bits 1 rest

theorem length_le_of_continued {following low high bits seen : Nat} {bytes rest : Bytes} {c : Char}
    (h : continued following low high bits seen bytes = .ok (c, rest)) :
    rest.length ≤ bytes.length := by
  fun_induction continued following low high bits seen bytes with
  | case1 => simp_all
  | case2 => simp at h
  | case3 _ _ _ _ _ _ _ _ ih => have := ih h; simp; omega
  | case4 => simp at h

theorem length_lt_of_decodeChar {bytes rest : Bytes} {c : Char}
    (h : decodeChar bytes = .ok (c, rest)) : rest.length < bytes.length := by
  unfold decodeChar at h
  split at h
  · simp at h
  · split at h
    · simp at h
    · have := length_le_of_continued h
      simp; omega

/-- Where bytes stop being text. -/
structure Error where
  /-- The length in bytes of the longest well-formed beginning. -/
  validUpTo : Nat
  fault : Fault
deriving DecidableEq, Repr

def Error.message (e : Error) : String :=
  match e.fault with
  | .invalid n => s!"invalid utf-8 sequence of {n} bytes from index {e.validUpTo}"
  | .incomplete => s!"incomplete utf-8 byte sequence from index {e.validUpTo}"

/-- Reads bytes that stand at index `start`. -/
def decodeFrom (start : Nat) (bytes : Bytes) : Except Error (List Char) :=
  if bytes.isEmpty then .ok []
  else
    match _read : decodeChar bytes with
    | .error fault => .error ⟨start, fault⟩
    | .ok (c, rest) =>
      match decodeFrom (start + (bytes.length - rest.length)) rest with
      | .ok cs => .ok (c :: cs)
      | .error e => .error e
termination_by bytes.length
decreasing_by exact length_lt_of_decodeChar (by assumption)

def decode (bytes : Bytes) : Except Error (List Char) := decodeFrom 0 bytes

end Utf8
end TrackStore
