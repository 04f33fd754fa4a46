import TrackStore.Text.Utf8.Lemmas
import TrackStore.Wire.Codec
import Mathlib.Algebra.Ring.Nat

/-! # Exact codecs

A codec is exact where reading accepts exactly what writing produces, whatever follows it. Each
codec is exact as soon as its parts are. The values of an exact codec are limited by what its counts
can hold.
-/

namespace TrackStore.Codec

variable {α β : Type}

/-- Reading gives a value that fits exactly off its bytes, and leaves what follows them. -/
def Exact (c : Codec α) (fits : α → Prop) : Prop :=
  ∀ bytes v rest, c.decode.run bytes = .ok (v, rest) ↔ fits v ∧ bytes = c.encode v ++ rest

theorem run_bind_eq_ok (x : Reader α) (f : α → Reader β) (bytes : Bytes) (r : β × Bytes) :
    (x >>= f).run bytes = .ok r ↔
      ∃ a middle, x.run bytes = .ok (a, middle) ∧ (f a).run middle = .ok r := by
  rw [StateT.run_bind]
  cases x.run bytes with
  | error e => simp [bind, Except.bind]
  | ok first =>
    obtain ⟨a, middle⟩ := first
    constructor
    · intro h
      exact ⟨a, middle, rfl, h⟩
    · rintro ⟨a', middle', h, hf⟩
      cases h
      exact hf

theorem run_pure_eq_ok (a : α) (bytes : Bytes) (v : α) (rest : Bytes) :
    (pure a : Reader α).run bytes = .ok (v, rest) ↔ a = v ∧ bytes = rest := by
  show Except.ok (a, bytes) = .ok (v, rest) ↔ _
  simp

theorem run_throw_ne_ok (e : DecodeError) (bytes : Bytes) (r : α × Bytes) :
    (throw e : Reader α).run bytes ≠ .ok r := by
  simp [throw, throwThe, MonadExceptOf.throw, StateT.run, StateT.lift, bind, Except.bind]

theorem run_takeBytes_eq_ok (n : Nat) (bytes front rest : Bytes) :
    (takeBytes n).run bytes = .ok (front, rest) ↔ front.length = n ∧ bytes = front ++ rest := by
  simp only [takeBytes, StateT.run]
  split
  next h =>
    constructor
    · intro he
      cases he
      exact ⟨by simp [h], (List.take_append_drop n bytes).symm⟩
    · rintro ⟨rfl, rfl⟩
      simp
  next h =>
    constructor
    · intro he
      cases he
    · rintro ⟨rfl, rfl⟩
      simp at h

theorem ofLittleEndian_lt (bytes : Bytes) : ofLittleEndian bytes < 256 ^ bytes.length := by
  induction bytes with
  | nil => simp [ofLittleEndian]
  | cons b bytes ih =>
    have hb := b.toNat_lt
    simp only [ofLittleEndian, List.length_cons, Nat.pow_succ]
    omega

theorem ofLittleEndian_littleEndian (width value : Nat) :
    ofLittleEndian (littleEndian width value) = value % 256 ^ width := by
  induction width generalizing value with
  | zero => simp [littleEndian, ofLittleEndian, Nat.mod_one]
  | succ width ih =>
    have hbyte : (UInt8.ofNat (value % 256)).toNat = value % 256 := by simp
    rw [littleEndian, ofLittleEndian, ih, hbyte, Nat.pow_succ', Nat.mod_mul]

theorem exact_unit : unit.Exact fun _ => True := by
  intro bytes v rest
  exact (run_pure_eq_ok () bytes v rest).trans (by simp [unit])

theorem exact_byte : byte.Exact fun _ => True := by
  intro bytes v rest
  cases bytes with
  | nil => simp [byte, StateT.run]
  | cons b bytes => simp [byte, StateT.run]

theorem exact_word (width : Nat) : (word width).Exact fun _ => True := by
  intro bytes v rest
  have hpow : 256 ^ width = 2 ^ (8 * width) := by rw [Nat.pow_mul]
  simp only [word, run_bind_eq_ok, run_takeBytes_eq_ok, run_pure_eq_ok, true_and]
  constructor
  · rintro ⟨front, middle, ⟨hlength, rfl⟩, rfl, rfl⟩
    have hlt := ofLittleEndian_lt front
    rw [hlength, hpow] at hlt
    rw [BitVec.toNat_ofNat, Nat.mod_eq_of_lt hlt, ← hlength, littleEndian_ofLittleEndian]
  · rintro rfl
    refine ⟨_, rest, ⟨length_littleEndian .., rfl⟩, ?_, rfl⟩
    rw [ofLittleEndian_littleEndian, hpow]
    simp

theorem exact_count : count.Exact (· < 2 ^ 64) := by
  intro bytes n rest
  simp only [count, run_bind_eq_ok, run_pure_eq_ok, exact_word 8 .., true_and]
  constructor
  · rintro ⟨w, middle, rfl, rfl, rfl⟩
    exact ⟨w.isLt, by simp⟩
  · rintro ⟨hn, rfl⟩
    exact ⟨_, _, rfl, by rw [BitVec.toNat_ofNat, Nat.mod_eq_of_lt hn], rfl⟩

theorem exact_bool : bool.Exact fun _ => True := by
  intro bytes v rest
  simp only [bool, run_bind_eq_ok, exact_byte .., true_and]
  constructor
  · rintro ⟨b, middle, rfl, h⟩
    split at h
    next hb =>
      obtain ⟨rfl, rfl⟩ := (run_pure_eq_ok ..).mp h
      simp [byte, hb]
    next =>
      split at h
      next hb =>
        obtain ⟨rfl, rfl⟩ := (run_pure_eq_ok ..).mp h
        simp [byte, hb]
      next => exact (run_throw_ne_ok _ _ _ h).elim
  · rintro rfl
    refine ⟨_, rest, rfl, ?_⟩
    cases v <;> rfl

theorem exact_char : char.Exact fun _ => True := by
  intro bytes c rest
  have hrun : char.decode.run bytes = .ok (c, rest) ↔ Utf8.decodeChar bytes = .ok (c, rest) := by
    cases bytes with
    | nil => simp [char, StateT.run, Utf8.decodeChar]
    | cons b bytes =>
      simp only [char, StateT.run, Except.mapError]
      cases Utf8.decodeChar (b :: bytes) <;> simp
  rw [hrun, Utf8.decodeChar_eq_ok]
  exact (and_iff_right trivial).symm

theorem run_textOfLength_eq_ok (length : Nat) (bytes : Bytes) (s : String) (rest : Bytes) :
    (textOfLength length).run bytes = .ok (s, rest) ↔
      (Utf8.encode s.toList).length = length ∧ bytes = Utf8.encode s.toList ++ rest := by
  simp only [textOfLength, StateT.run]
  constructor
  · intro h
    split at h
    · cases h
    next hshort =>
      split at h
      next cs hcs =>
        cases h
        have htake := (Utf8.decode_eq_ok ..).mp hcs
        rw [String.toList_ofList, ← htake, List.take_append_drop, List.length_take]
        exact ⟨by omega, rfl⟩
      next => cases h
  · rintro ⟨rfl, rfl⟩
    have hdecode := (Utf8.decode_eq_ok (Utf8.encode s.toList) s.toList).mpr rfl
    simp [hdecode]

theorem exact_text : text.Exact fun s => s.utf8ByteSize < 2 ^ 64 := by
  intro bytes s rest
  simp only [text, run_bind_eq_ok, exact_count .., run_textOfLength_eq_ok, ← Utf8.length_encode]
  constructor
  · rintro ⟨length, middle, ⟨hlt, rfl⟩, rfl, rfl⟩
    exact ⟨hlt, (List.append_assoc ..).symm⟩
  · rintro ⟨hlt, rfl⟩
    exact ⟨_, _, ⟨hlt, List.append_assoc ..⟩, rfl, rfl⟩

section Compound
variable {c : Codec α} {fits : α → Prop}

theorem Exact.option (h : c.Exact fits) : c.option.Exact fun v => ∀ a ∈ v, fits a := by
  intro bytes v rest
  simp only [Codec.option, run_bind_eq_ok, exact_byte .., true_and]
  constructor
  · rintro ⟨tag, middle, rfl, hrest⟩
    split at hrest
    next htag =>
      obtain ⟨rfl, rfl⟩ := (run_pure_eq_ok ..).mp hrest
      simp [byte, htag]
    next =>
      split at hrest
      next htag =>
        obtain ⟨a, behind, ha, hv⟩ := (run_bind_eq_ok ..).mp hrest
        obtain ⟨rfl, rfl⟩ := (run_pure_eq_ok ..).mp hv
        obtain ⟨hfits, rfl⟩ := (h ..).mp ha
        simp [byte, htag, hfits]
      next => exact (run_throw_ne_ok _ _ _ hrest).elim
  · rintro ⟨hfits, rfl⟩
    cases v with
    | none => exact ⟨0, rest, rfl, rfl⟩
    | some a =>
      refine ⟨1, c.encode a ++ rest, rfl, ?_⟩
      have ha := (h (c.encode a ++ rest) a rest).mpr ⟨hfits a rfl, rfl⟩
      exact (run_bind_eq_ok ..).mpr ⟨a, rest, ha, rfl⟩

theorem Exact.array (h : c.Exact fits) (n : Nat) :
    (c.array n).Exact fun items => ∀ a ∈ items.val, fits a := by
  show ∀ bytes items rest, (c.decodeMany n).run bytes = .ok (items, rest) ↔
    (∀ a ∈ items.val, fits a) ∧ bytes = c.encodeMany items.val ++ rest
  induction n with
  | zero =>
    rintro bytes ⟨items, hlength⟩ rest
    obtain rfl := List.length_eq_zero_iff.mp hlength
    simp only [decodeMany, run_pure_eq_ok]
    simp [encodeMany]
  | succ n ih =>
    intro bytes items rest
    simp only [decodeMany, run_bind_eq_ok, run_pure_eq_ok, h .., ih]
    constructor
    · rintro ⟨first, middle, ⟨hfirst, rfl⟩, others, behind, ⟨hothers, rfl⟩, rfl, rfl⟩
      refine ⟨List.forall_mem_cons.mpr ⟨hfirst, hothers⟩, ?_⟩
      simp [encodeMany]
    · rintro ⟨hfits, rfl⟩
      obtain ⟨items, hlength⟩ := items
      cases items with
      | nil => cases hlength
      | cons first others =>
        obtain ⟨hfirst, hothers⟩ := List.forall_mem_cons.mp hfits
        refine ⟨first, _, ⟨hfirst, ?_⟩, ⟨others, Nat.succ.inj hlength⟩, rest, ⟨hothers, rfl⟩, rfl,
          rfl⟩
        simp [encodeMany]

theorem Exact.list (h : c.Exact fits) :
    c.list.Exact fun items => items.length < 2 ^ 64 ∧ ∀ a ∈ items, fits a := by
  intro bytes items rest
  have hmany (n : Nat) := h.array n
  simp only [Exact, Codec.array] at hmany
  simp only [Codec.list, run_bind_eq_ok, run_pure_eq_ok, exact_count .., hmany]
  constructor
  · rintro ⟨n, middle, ⟨hlt, rfl⟩, ⟨many, hlength⟩, behind, ⟨hfits, rfl⟩, rfl, rfl⟩
    exact ⟨⟨hlength ▸ hlt, hfits⟩, by simp [hlength]⟩
  · rintro ⟨⟨hlt, hfits⟩, rfl⟩
    exact ⟨items.length, _, ⟨hlt, List.append_assoc ..⟩, ⟨items, rfl⟩, rest, ⟨hfits, rfl⟩, rfl, rfl⟩

theorem Exact.pair (h : c.Exact fits) {d : Codec β} {fits' : β → Prop} (h' : d.Exact fits') :
    (c.pair d).Exact fun v => fits v.1 ∧ fits' v.2 := by
  intro bytes v rest
  simp only [Codec.pair, run_bind_eq_ok, run_pure_eq_ok, h .., h' ..]
  constructor
  · rintro ⟨a, middle, ⟨ha, rfl⟩, b, behind, ⟨hb, rfl⟩, rfl, rfl⟩
    exact ⟨⟨ha, hb⟩, (List.append_assoc ..).symm⟩
  · rintro ⟨⟨ha, hb⟩, rfl⟩
    exact ⟨v.1, _, ⟨ha, List.append_assoc ..⟩, v.2, rest, ⟨hb, rfl⟩, rfl, rfl⟩

theorem Exact.iso (h : c.Exact fits) {wrap : α → β} {unwrap : β → α}
    (hwrap : ∀ b, wrap (unwrap b) = b) (hunwrap : ∀ a, unwrap (wrap a) = a) :
    (c.iso wrap unwrap).Exact fun b => fits (unwrap b) := by
  intro bytes b rest
  simp only [Codec.iso, run_bind_eq_ok, run_pure_eq_ok, h ..]
  constructor
  · rintro ⟨a, middle, ⟨ha, rfl⟩, rfl, rfl⟩
    rw [hunwrap]
    exact ⟨ha, rfl⟩
  · rintro ⟨hb, rfl⟩
    exact ⟨unwrap b, rest, ⟨hb, rfl⟩, hwrap b, rfl⟩

end Compound

theorem exact_choice [DecidableEq α] {choices : List α} (hnodup : choices.Nodup)
    (hall : ∀ v, v ∈ choices) (hlength : choices.length ≤ 2 ^ 32) :
    (choice choices).Exact fun _ => True := by
  intro bytes v rest
  simp only [choice, run_bind_eq_ok, exact_word 4 .., true_and]
  constructor
  · rintro ⟨w, middle, rfl, h⟩
    split at h
    next found hfound =>
      obtain ⟨rfl, rfl⟩ := (run_pure_eq_ok ..).mp h
      obtain ⟨hlt, rfl⟩ := List.getElem?_eq_some_iff.mp hfound
      rw [hnodup.idxOf_getElem]
      simp
    next => exact (run_throw_ne_ok _ _ _ h).elim
  · rintro rfl
    have hlt := List.idxOf_lt_length_of_mem (hall v)
    have hindex : (BitVec.ofNat (8 * 4) (choices.idxOf v)).toNat = choices.idxOf v := by
      rw [BitVec.toNat_ofNat]
      exact Nat.mod_eq_of_lt (by omega)
    refine ⟨_, rest, rfl, ?_⟩
    have hget : choices[choices.idxOf v]? = some v := by
      rw [List.getElem?_eq_getElem hlt, List.getElem_idxOf hlt]
    rw [hindex, hget]
    rfl

section Exact
variable {c : Codec α} {fits : α → Prop}

/-- Bytes begin with at most one value, and only there does it end. -/
theorem Exact.encode_append_inj (h : c.Exact fits) {v w : α} (hv : fits v) (hw : fits w)
    {rest rest' : Bytes} (he : c.encode v ++ rest = c.encode w ++ rest') :
    v = w ∧ rest = rest' := by
  have hread := (h _ v rest).mpr ⟨hv, rfl⟩
  rw [(h _ w rest').mpr ⟨hw, he⟩] at hread
  cases hread
  exact ⟨rfl, rfl⟩

end Exact

end TrackStore.Codec
