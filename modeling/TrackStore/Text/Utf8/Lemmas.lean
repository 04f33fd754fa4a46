import TrackStore.Text.Utf8

/-! # UTF-8, read and written

The sequences that spell a character, as a grammar. Reading accepts exactly the sequence that
writing makes of a character, so a character has one spelling and a text has one.
-/

namespace TrackStore.Utf8

def Tail (b : UInt8) : Prop := 0x80 ≤ b.toNat ∧ b.toNat ≤ 0xBF

/-- The bytes spell the character of that number. What would be too long a spelling, a surrogate or
above all characters is left out. -/
inductive Spells : Nat → Bytes → Prop
  | one {a : UInt8} (ha : a.toNat < 0x80) : Spells a.toNat [a]
  | two {n : Nat} {a b : UInt8} (ha : 0xC2 ≤ a.toNat ∧ a.toNat < 0xE0) (hb : Tail b)
      (hn : n = (a.toNat - 0xC0) * 0x40 + (b.toNat - 0x80)) : Spells n [a, b]
  | three {n : Nat} {a b c : UInt8} (ha : 0xE0 ≤ a.toNat ∧ a.toNat < 0xF0) (hb : Tail b)
      (hc : Tail c)
      (hn : n = ((a.toNat - 0xE0) * 0x40 + (b.toNat - 0x80)) * 0x40 + (c.toNat - 0x80))
      (hlong : 0x800 ≤ n) (hsurrogate : n < 0xD800 ∨ 0xE000 ≤ n) : Spells n [a, b, c]
  | four {n : Nat} {a b c d : UInt8} (ha : 0xF0 ≤ a.toNat ∧ a.toNat < 0xF5) (hb : Tail b)
      (hc : Tail c) (hd : Tail d)
      (hn : n = (((a.toNat - 0xF0) * 0x40 + (b.toNat - 0x80)) * 0x40 + (c.toNat - 0x80)) * 0x40 +
        (d.toNat - 0x80))
      (hlong : 0x10000 ≤ n) (hlast : n < 0x110000) : Spells n [a, b, c, d]

theorem Spells.isValidChar {n : Nat} {bytes : Bytes} (h : Spells n bytes) : n.isValidChar := by
  unfold Nat.isValidChar
  cases h with
  | one ha => omega
  | two ha hb hn =>
    unfold Tail at hb
    omega
  | three ha hb hc hn hlong hsurrogate =>
    unfold Tail at hb hc
    omega
  | four => omega

theorem Spells.toNat_ofNat {n : Nat} {bytes : Bytes} (h : Spells n bytes) :
    (Char.ofNat n).toNat = n := by
  rw [Char.ofNat, dif_pos h.isValidChar]
  rfl

theorem toNat_ofNat_byte {n : Nat} (h : n < 256) : (UInt8.ofNat n).toNat = n := by
  simp only [UInt8.toNat_ofNat']
  omega

theorem tail_ofNat (n : Nat) : Tail (.ofNat (0x80 + n % 0x40)) := by
  unfold Tail
  rw [toNat_ofNat_byte (by omega)]
  omega

theorem spells_encodeChar (c : Char) : Spells c.toNat (encodeChar c) := by
  have hvalid : c.toNat < 0xD800 ∨ 0xDFFF < c.toNat ∧ c.toNat < 0x110000 := c.valid
  unfold encodeChar
  simp only
  generalize c.toNat = n at hvalid
  split
  · have hbyte : (UInt8.ofNat n).toNat = n := toNat_ofNat_byte (by omega)
    have hspells : Spells (UInt8.ofNat n).toNat [.ofNat n] := .one (by omega)
    rwa [hbyte] at hspells
  split
  · have hlead := toNat_ofNat_byte (n := 0xC0 + n / 0x40) (by omega)
    have hlast := toNat_ofNat_byte (n := 0x80 + n % 0x40) (by omega)
    exact .two (by omega) (tail_ofNat n) (by omega)
  split
  · have hlead := toNat_ofNat_byte (n := 0xE0 + n / 0x1000) (by omega)
    have hnext := toNat_ofNat_byte (n := 0x80 + n / 0x40 % 0x40) (by omega)
    have hlast := toNat_ofNat_byte (n := 0x80 + n % 0x40) (by omega)
    exact .three (by omega) (tail_ofNat _) (tail_ofNat n) (by omega) (by omega) (by omega)
  · have hlead := toNat_ofNat_byte (n := 0xF0 + n / 0x40000) (by omega)
    have hnext := toNat_ofNat_byte (n := 0x80 + n / 0x1000 % 0x40) (by omega)
    have hthird := toNat_ofNat_byte (n := 0x80 + n / 0x40 % 0x40) (by omega)
    have hlast := toNat_ofNat_byte (n := 0x80 + n % 0x40) (by omega)
    exact .four (by omega) (tail_ofNat _) (tail_ofNat _) (tail_ofNat n) (by omega) (by omega)
      (by omega)

theorem ofNat_eq_byte {n : Nat} {b : UInt8} (h : n = b.toNat) : UInt8.ofNat n = b := by
  rw [h, UInt8.ofNat_toNat]

/-- A character has one spelling. -/
theorem Spells.eq_encodeChar {c : Char} {bytes : Bytes} (h : Spells c.toNat bytes) :
    bytes = encodeChar c := by
  unfold encodeChar
  simp only
  generalize c.toNat = n at h
  cases h with
  | one ha => simp [ha]
  | @two _ a b ha hb hn =>
    unfold Tail at hb
    have hlead : UInt8.ofNat (0xC0 + n / 0x40) = a := ofNat_eq_byte (by omega)
    have hlast : UInt8.ofNat (0x80 + n % 0x40) = b := ofNat_eq_byte (by omega)
    rw [if_neg (by omega), if_pos (by omega), hlead, hlast]
  | @three _ a b c ha hb hc hn hlong hsurrogate =>
    unfold Tail at hb hc
    have hlead : UInt8.ofNat (0xE0 + n / 0x1000) = a := ofNat_eq_byte (by omega)
    have hnext : UInt8.ofNat (0x80 + n / 0x40 % 0x40) = b := ofNat_eq_byte (by omega)
    have hlast : UInt8.ofNat (0x80 + n % 0x40) = c := ofNat_eq_byte (by omega)
    rw [if_neg (by omega), if_neg (by omega), if_pos (by omega), hlead, hnext, hlast]
  | @four _ a b c d ha hb hc hd hn hlong hlast =>
    unfold Tail at hb hc hd
    have hlead : UInt8.ofNat (0xF0 + n / 0x40000) = a := ofNat_eq_byte (by omega)
    have hnext : UInt8.ofNat (0x80 + n / 0x1000 % 0x40) = b := ofNat_eq_byte (by omega)
    have hthird : UInt8.ofNat (0x80 + n / 0x40 % 0x40) = c := ofNat_eq_byte (by omega)
    have hfourth : UInt8.ofNat (0x80 + n % 0x40) = d := ofNat_eq_byte (by omega)
    rw [if_neg (by omega), if_neg (by omega), if_neg (by omega), hlead, hnext, hthird, hfourth]

theorem continued_zero (low high bits seen : Nat) (bytes : Bytes) (c : Char) (rest : Bytes) :
    continued 0 low high bits seen bytes = .ok (c, rest) ↔ c = Char.ofNat bits ∧ bytes = rest := by
  simp [continued, @eq_comm _ c]

theorem continued_succ (following low high bits seen : Nat) (bytes : Bytes) (r : Char × Bytes) :
    continued (following + 1) low high bits seen bytes = .ok r ↔
      ∃ b rest, bytes = b :: rest ∧ (low ≤ b.toNat ∧ b.toNat ≤ high) ∧
        continued following 0x80 0xBF (bits * 0x40 + (b.toNat - 0x80)) (seen + 1) rest = .ok r := by
  cases bytes with
  | nil => simp [continued]
  | cons b rest =>
    simp only [continued]
    split
    next hb =>
      constructor
      · exact fun h => ⟨b, rest, rfl, hb, h⟩
      · rintro ⟨b', rest', he, -, h⟩
        cases he
        exact h
    next hb =>
      constructor
      · exact fun h => nomatch h
      · rintro ⟨b', rest', he, hb', -⟩
        cases he
        exact absurd hb' hb

theorem ofByte?_one {b : Nat} (hb : b < 0x80) : Lead.ofByte? b = some ⟨b, 0, 0, 0⟩ := by
  simp [Lead.ofByte?, hb]

theorem ofByte?_two {b : Nat} (hb : 0xC2 ≤ b ∧ b < 0xE0) :
    Lead.ofByte? b = some ⟨b - 0xC0, 1, 0x80, 0xBF⟩ := by
  unfold Lead.ofByte?
  rw [if_neg (by omega), if_neg (by omega), if_pos hb.2]

/-- What the first byte says of a character of three bytes, and which bytes may come next. -/
theorem ofByte?_three {b : Nat} (hb : 0xE0 ≤ b ∧ b < 0xF0) :
    ∃ low high, Lead.ofByte? b = some ⟨b - 0xE0, 2, low, high⟩ ∧ ∀ d, low ≤ d ∧ d ≤ high ↔
      (0x80 ≤ d ∧ d ≤ 0xBF) ∧ 0x20 ≤ (b - 0xE0) * 0x40 + (d - 0x80) ∧
        ((b - 0xE0) * 0x40 + (d - 0x80) < 0x360 ∨ 0x380 ≤ (b - 0xE0) * 0x40 + (d - 0x80)) := by
  unfold Lead.ofByte?
  rw [if_neg (by omega), if_neg (by omega), if_neg (by omega)]
  by_cases hfirst : b = 0xE0
  · exact ⟨0xA0, 0xBF, by simp [hfirst], by omega⟩
  by_cases hsurrogate : b = 0xED
  · exact ⟨0x80, 0x9F, by simp [hsurrogate], by omega⟩
  · exact ⟨0x80, 0xBF, by simp [hfirst, hsurrogate, hb.2], by omega⟩

theorem ofByte?_four {b : Nat} (hb : 0xF0 ≤ b ∧ b < 0xF5) :
    ∃ low high, Lead.ofByte? b = some ⟨b - 0xF0, 3, low, high⟩ ∧ ∀ d, low ≤ d ∧ d ≤ high ↔
      (0x80 ≤ d ∧ d ≤ 0xBF) ∧ 0x10 ≤ (b - 0xF0) * 0x40 + (d - 0x80) ∧
        (b - 0xF0) * 0x40 + (d - 0x80) < 0x110 := by
  unfold Lead.ofByte?
  rw [if_neg (by omega), if_neg (by omega), if_neg (by omega), if_neg (by omega),
    if_neg (by omega), if_neg (by omega)]
  by_cases hfirst : b = 0xF0
  · exact ⟨0x90, 0xBF, by simp [hfirst], by omega⟩
  by_cases hlast : b = 0xF4
  · exact ⟨0x80, 0x8F, by simp [hlast], by omega⟩
  · have hmiddle : b < 0xF4 := by omega
    exact ⟨0x80, 0xBF, by simp [hfirst, hmiddle], by omega⟩

theorem ofByte?_none {b : Nat} (hb : 0x80 ≤ b ∧ b < 0xC2 ∨ 0xF5 ≤ b) :
    Lead.ofByte? b = none := by
  unfold Lead.ofByte?
  rcases hb with hb | hb
  · rw [if_neg (by omega), if_pos hb.2]
  · rw [if_neg (by omega), if_neg (by omega), if_neg (by omega), if_neg (by omega),
      if_neg (by omega), if_neg (by omega), if_neg (by omega), if_neg (by omega),
      if_neg (by omega)]

theorem decodeChar_cons {a : UInt8} {lead : Lead} (h : Lead.ofByte? a.toNat = some lead)
    (bytes : Bytes) :
    decodeChar (a :: bytes) = continued lead.following lead.low lead.high lead.bits 1 bytes := by
  simp [decodeChar, h]

theorem decodeChar_of_spells {n : Nat} {front : Bytes} (h : Spells n front) (rest : Bytes) :
    decodeChar (front ++ rest) = .ok (Char.ofNat n, rest) := by
  cases h with
  | one ha =>
    rw [List.singleton_append, decodeChar_cons (ofByte?_one ha), continued_zero]
    exact ⟨rfl, rfl⟩
  | @two _ a b ha hb hn =>
    rw [List.cons_append, decodeChar_cons (ofByte?_two ha), continued_succ]
    refine ⟨b, rest, rfl, hb, (continued_zero ..).mpr ⟨?_, rfl⟩⟩
    rw [hn]
  | @three _ a b c ha hb hc hn hlong hsurrogate =>
    obtain ⟨low, high, hlead, hnext⟩ := ofByte?_three ha
    rw [List.cons_append, decodeChar_cons hlead, continued_succ]
    have hrange := (hnext b.toNat).mpr ⟨hb, by unfold Tail at hc; omega⟩
    refine ⟨b, _, rfl, hrange, (continued_succ ..).mpr ⟨c, rest, rfl, hc, ?_⟩⟩
    rw [continued_zero, hn]
    exact ⟨rfl, rfl⟩
  | @four _ a b c d ha hb hc hd hn hlong hlast =>
    obtain ⟨low, high, hlead, hnext⟩ := ofByte?_four ha
    rw [List.cons_append, decodeChar_cons hlead, continued_succ]
    have hrange := (hnext b.toNat).mpr ⟨hb, by unfold Tail at hc hd; omega⟩
    refine ⟨b, _, rfl, hrange, (continued_succ ..).mpr ⟨c, _, rfl, hc, ?_⟩⟩
    refine (continued_succ ..).mpr ⟨d, rest, rfl, hd, ?_⟩
    rw [continued_zero, hn]
    exact ⟨rfl, rfl⟩

theorem spells_of_decodeChar {bytes rest : Bytes} {c : Char}
    (h : decodeChar bytes = .ok (c, rest)) :
    ∃ n front, Spells n front ∧ c = Char.ofNat n ∧ bytes = front ++ rest := by
  cases bytes with
  | nil => cases h
  | cons a bytes =>
    by_cases hnone : 0x80 ≤ a.toNat ∧ a.toNat < 0xC2 ∨ 0xF5 ≤ a.toNat
    · simp [decodeChar, ofByte?_none hnone] at h
    by_cases hone : a.toNat < 0x80
    · rw [decodeChar_cons (ofByte?_one hone), continued_zero] at h
      obtain ⟨rfl, rfl⟩ := h
      exact ⟨_, [a], .one hone, rfl, rfl⟩
    by_cases htwo : a.toNat < 0xE0
    · have ha : 0xC2 ≤ a.toNat ∧ a.toNat < 0xE0 := by omega
      rw [decodeChar_cons (ofByte?_two ha), continued_succ] at h
      obtain ⟨b, rest, rfl, hb, h⟩ := h
      obtain ⟨hchar, rfl⟩ := (continued_zero ..).mp h
      exact ⟨_, [a, b], .two ha hb rfl, hchar, rfl⟩
    by_cases hthree : a.toNat < 0xF0
    · have ha : 0xE0 ≤ a.toNat ∧ a.toNat < 0xF0 := by omega
      obtain ⟨low, high, hlead, hnext⟩ := ofByte?_three ha
      rw [decodeChar_cons hlead, continued_succ] at h
      obtain ⟨b, rest, rfl, hb, h⟩ := h
      obtain ⟨c, rest, rfl, hc, h⟩ := (continued_succ ..).mp h
      obtain ⟨hchar, rfl⟩ := (continued_zero ..).mp h
      obtain ⟨hb, hlong, hsurrogate⟩ := (hnext b.toNat).mp hb
      exact ⟨_, [a, b, c], .three ha hb hc rfl (by omega) (by omega), hchar, rfl⟩
    · have ha : 0xF0 ≤ a.toNat ∧ a.toNat < 0xF5 := by omega
      obtain ⟨low, high, hlead, hnext⟩ := ofByte?_four ha
      rw [decodeChar_cons hlead, continued_succ] at h
      obtain ⟨b, rest, rfl, hb, h⟩ := h
      obtain ⟨c, rest, rfl, hc, h⟩ := (continued_succ ..).mp h
      obtain ⟨d, rest, rfl, hd, h⟩ := (continued_succ ..).mp h
      obtain ⟨hchar, rfl⟩ := (continued_zero ..).mp h
      obtain ⟨hb, hlong, hlast⟩ := (hnext b.toNat).mp hb
      exact ⟨_, [a, b, c, d], .four ha hb hc hd rfl (by omega) (by omega), hchar, rfl⟩

/-- Reading a character accepts exactly what writing it produces. -/
theorem decodeChar_eq_ok (bytes rest : Bytes) (c : Char) :
    decodeChar bytes = .ok (c, rest) ↔ bytes = encodeChar c ++ rest := by
  constructor
  · intro h
    obtain ⟨n, front, hspells, rfl, rfl⟩ := spells_of_decodeChar h
    have hchar : Spells (Char.ofNat n).toNat front := by rwa [hspells.toNat_ofNat]
    rw [hchar.eq_encodeChar]
  · rintro rfl
    rw [decodeChar_of_spells (spells_encodeChar c), Char.ofNat_toNat]

theorem encodeChar_ne_nil (c : Char) : encodeChar c ≠ [] := by
  intro h
  have hspells := spells_encodeChar c
  generalize c.toNat = n at hspells
  rw [h] at hspells
  cases hspells

theorem encode_cons (c : Char) (cs : List Char) :
    encode (c :: cs) = encodeChar c ++ encode cs := rfl

theorem encode_eq_nil (cs : List Char) : encode cs = [] ↔ cs = [] := by
  cases cs with
  | nil => simp [encode]
  | cons c cs => simp [encode_cons, encodeChar_ne_nil]

/-- Bytes that are the writing of characters begin with the first of them. -/
theorem eq_encode_cons {bytes rest : Bytes} {c : Char} (h : decodeChar bytes = .ok (c, rest))
    (cs : List Char) : bytes = encode cs ↔ ∃ others, cs = c :: others ∧ rest = encode others := by
  have hbytes := (decodeChar_eq_ok ..).mp h
  constructor
  · intro hcs
    cases cs with
    | nil => simp [hcs, encode] at hbytes; exact absurd hbytes.1 (encodeChar_ne_nil c)
    | cons c' others =>
      have hread := (decodeChar_eq_ok ..).mpr (hcs.trans (encode_cons c' others))
      cases h.symm.trans hread
      exact ⟨others, rfl, rfl⟩
  · rintro ⟨others, rfl, rfl⟩
    exact hbytes

theorem decodeFrom_eq_ok (start : Nat) (bytes : Bytes) (cs : List Char) :
    decodeFrom start bytes = .ok cs ↔ bytes = encode cs := by
  fun_induction decodeFrom start bytes generalizing cs with
  | case1 start bytes hempty =>
    rw [List.isEmpty_iff] at hempty
    subst hempty
    rw [@eq_comm _ [], encode_eq_nil, @eq_comm _ cs]
    simp
  | case2 start bytes hempty fault hread =>
    constructor
    · intro h
      cases h
    · rintro rfl
      cases cs with
      | nil => exact absurd rfl hempty
      | cons c cs =>
        have hok := (decodeChar_eq_ok ..).mpr (encode_cons c cs)
        cases hread.symm.trans hok
  | case3 start bytes hempty c rest hread others hrest ih =>
    rw [eq_encode_cons hread]
    constructor
    · intro h
      cases h
      exact ⟨others, rfl, (ih others).mp hrest⟩
    · rintro ⟨others', rfl, he⟩
      cases hrest.symm.trans ((ih others').mpr he)
      rfl
  | case4 start bytes hempty c rest hread e hrest ih =>
    rw [eq_encode_cons hread]
    constructor
    · intro h
      cases h
    · rintro ⟨others, rfl, he⟩
      cases hrest.symm.trans ((ih others).mpr he)

/-- Bytes are text exactly if they are the writing of characters. -/
theorem decode_eq_ok (bytes : Bytes) (cs : List Char) : decode bytes = .ok cs ↔ bytes = encode cs :=
  decodeFrom_eq_ok 0 bytes cs

theorem encodeChar_eq (c : Char) : encodeChar c = String.utf8EncodeChar c := by
  have hvalid : c.toNat < 0xD800 ∨ 0xDFFF < c.toNat ∧ c.toNat < 0x110000 := c.valid
  have hval : c.val.toNat = c.toNat := rfl
  simp only [encodeChar, String.utf8EncodeChar, hval]
  generalize c.toNat = n at hvalid
  by_cases hone : n < 0x80
  · rw [if_pos hone, if_pos (by omega)]
  by_cases htwo : n < 0x800
  · have hlead : n / 64 % 32 + 192 = 0xC0 + n / 0x40 := by omega
    rw [if_neg hone, if_pos htwo, if_neg (by omega), if_pos (by omega), hlead,
      Nat.add_comm (n % 64)]
  by_cases hthree : n < 0x10000
  · have hlead : n / 4096 % 16 + 224 = 0xE0 + n / 0x1000 := by omega
    rw [if_neg hone, if_neg htwo, if_pos hthree, if_neg (by omega), if_neg (by omega),
      if_pos (by omega), hlead, Nat.add_comm (n % 64), Nat.add_comm (n / 64 % 64)]
  · have hlead : n / 262144 % 8 + 240 = 0xF0 + n / 0x40000 := by omega
    rw [if_neg hone, if_neg htwo, if_neg hthree, if_neg (by omega), if_neg (by omega),
      if_neg (by omega), hlead, Nat.add_comm (n % 64), Nat.add_comm (n / 64 % 64),
      Nat.add_comm (n / 4096 % 64)]

theorem length_encode (s : String) : (encode s.toList).length = s.utf8ByteSize := by
  have hbytes : encode s.toList = s.toList.flatMap String.utf8EncodeChar :=
    congrArg (List.flatMap · s.toList) (funext encodeChar_eq)
  have htext : s.toByteArray = s.toList.utf8Encode := by
    rw [← String.toByteArray_ofList, String.ofList_toList]
  rw [← String.size_toByteArray, htext, List.utf8Encode, List.size_toByteArray, hbytes]

end TrackStore.Utf8
