import Mathlib.Data.Nat.Digits.Lemmas
import TrackStore.Toml.Number
import TrackStore.Toml.Scan.Lemmas

/-! # Reading whole numbers

The decimal digits of a number at the end of a line are read as that number. No time can be read
there, since each has a mark between its digits, and neither can a number in another base.
-/

namespace TrackStore.Toml

open Scan

/-- Digits, and the end of a line behind them. -/
def DigitLine (cs : List Char) : Prop :=
  ∃ ds rest, (∀ d ∈ ds, d.isDigit = true) ∧ cs = ds ++ '\n' :: rest

theorem digitLine_toDigits (n : Nat) (rest : List Char) :
    DigitLine (Nat.toDigits 10 n ++ '\n' :: rest) :=
  ⟨_, rest, fun _ hd => Nat.isDigit_of_mem_toDigits (by decide) (by decide) hd, rfl⟩

/-- A line of digits begins with a digit or is at its end. -/
theorem DigitLine.cases {cs : List Char} (h : DigitLine cs) :
    ∃ c rest, cs = c :: rest ∧ (c = '\n' ∨ c.isDigit = true ∧ DigitLine rest) := by
  obtain ⟨ds, rest, hds, rfl⟩ := h
  cases ds with
  | nil => exact ⟨'\n', rest, rfl, .inl rfl⟩
  | cons d ds =>
    refine ⟨d, ds ++ '\n' :: rest, rfl, .inr ⟨hds d List.mem_cons_self, ds, rest, ?_, rfl⟩⟩
    exact fun c hc => hds c (List.mem_cons_of_mem _ hc)

/-- A line of digits does not begin with such a character. -/
def IsMark (c : Char) : Prop := c.isDigit = false ∧ c ≠ '\n'

instance (c : Char) : Decidable (IsMark c) :=
  inferInstanceAs (Decidable (c.isDigit = false ∧ c ≠ '\n'))

theorem DigitLine.not_mark {cs : List Char} (h : DigitLine cs) {mark : Char} (hmark : IsMark mark) :
    ∃ c rest, cs = c :: rest ∧ mark ≠ c := by
  obtain ⟨c, rest, rfl, rfl | ⟨hc, -⟩⟩ := h.cases
  · exact ⟨_, _, rfl, hmark.2⟩
  · refine ⟨c, rest, rfl, ?_⟩
    rintro rfl
    exact Bool.false_ne_true (hmark.1.symm.trans hc)

theorem DigitLine.run_char {cs : List Char} (h : DigitLine cs) {mark : Char}
    (hmark : IsMark mark) : (char mark).run cs = none := by
  obtain ⟨c, rest, rfl, hne⟩ := h.not_mark hmark
  rw [run_char_cons, if_neg hne.symm]

theorem DigitLine.run_literal {cs : List Char} (h : DigitLine cs) {word : String} {m : Char}
    {ms : List Char} (hword : word.toList = m :: ms) (hmark : IsMark m) :
    (literal word).run cs = none := by
  obtain ⟨c, rest, rfl, hne⟩ := h.not_mark hmark
  rw [Scan.run_literal, hword, if_neg (by simp [hne])]

theorem keeps_satisfy_isDigit : Keeps DigitLine (satisfy Char.isDigit) := by
  intro cs a rest hP h
  obtain ⟨c, tail, rfl, rfl | ⟨hc, htail⟩⟩ := hP.cases
  · cases h
  · rw [run_satisfy_cons, if_pos hc] at h
    cases h
    exact htail

theorem keeps_fixedNumber (places low high : Nat) :
    Keeps DigitLine (fixedNumber places low high) := by
  refine (Keeps.mapM (fun _ => keeps_satisfy_isDigit) _).bind fun ds => ?_
  dsimp only
  split
  · exact .pure _ _
  · exact .failure _

/-- After the digits of its first part a time has a mark, where a line of digits has none. -/
theorem DigitLine.run_moment {cs : List Char} (h : DigitLine cs) : moment.run cs = none := by
  have hdate : date.run cs = none :=
    (keeps_fixedNumber 4 0 9999).run_bind_eq_none h fun _ _ hrest =>
      run_bind_of_none (hrest.run_char (by decide)) _
  have htime : time.run cs = none :=
    (keeps_fixedNumber 2 0 23).run_bind_eq_none h fun _ _ hrest =>
      run_bind_of_none (hrest.run_char (by decide)) _
  unfold moment
  rw [run_orElse_of_none (run_bind_of_none hdate _), run_map_of_none htime]

theorem DigitLine.run_sign {cs : List Char} (h : DigitLine cs) : sign.run cs = some (none, cs) := by
  refine run_optional_of_none ?_
  rw [run_orElse_of_none (run_map_of_none (h.run_char (by decide)) _),
    run_map_of_none (h.run_char (by decide))]

/-- The second character of a mark such as `0x` is no digit. -/
theorem DigitLine.run_basedInteger {cs : List Char} (h : DigitLine cs) {word : String} {m : Char}
    (hword : word.toList = ['0', m]) (hmark : IsMark m) (base : Nat) :
    (basedInteger word base).run cs = none := by
  refine run_bind_of_none ?_ _
  rw [Scan.run_literal, hword, if_neg]
  obtain ⟨c, rest, rfl, rfl | ⟨-, hrest⟩⟩ := h.cases
  · simp
  · obtain ⟨d, tail, rfl, hne⟩ := hrest.not_mark hmark
    simp [hne]

theorem DigitLine.run_specialFloat {cs : List Char} (h : DigitLine cs) :
    specialFloat.run cs = none := by
  have hinf : (literal "inf").run cs = none := h.run_literal rfl (by decide : IsMark 'i')
  have hnan : (literal "nan").run cs = none := h.run_literal rfl (by decide : IsMark 'n')
  rw [specialFloat, run_bind_of_some h.run_sign]
  exact (run_orElse_of_none (run_bind_of_none hinf _)).trans (run_bind_of_none hnan _)

def digitValue (c : Char) : Nat := c.toNat - '0'.toNat

theorem hexValue?_of_isDigit {c : Char} (h : c.isDigit = true) :
    hexValue? c = some (digitValue c) ∧ digitValue c < 10 := by
  obtain ⟨hlow, hhigh⟩ : 48 ≤ c.toNat ∧ c.toNat ≤ 57 := by
    simpa [Char.isDigit, UInt32.le_iff_toNat_le] using h
  have hrange : '0' ≤ c ∧ c ≤ '9' := ⟨hlow, hhigh⟩
  have hzero : '0'.toNat = 48 := rfl
  refine ⟨by rw [hexValue?, if_pos hrange]; rfl, ?_⟩
  unfold digitValue
  omega

theorem ofDigits_toDigits (n : Nat) : ofDigits 10 ((Nat.toDigits 10 n).map digitValue) = n := by
  have hfold : ofDigits 10 ((Nat.toDigits 10 n).map digitValue) =
      Nat.ofDigitChars 10 (Nat.toDigits 10 n) 0 := by
    rw [ofDigits, List.foldl_map, Nat.ofDigitChars_eq_foldl]
    rfl
  rw [hfold, Nat.ofDigitChars_ten_toDigits]

/-- Only the number zero has a zero in front. -/
theorem toDigits_eq_cons {n : Nat} (h : 0 < n) :
    ∃ c cs, Nat.toDigits 10 n = c :: cs ∧ c ≠ '0' := by
  induction n using Nat.strongRecOn with
  | ind n ih =>
    by_cases hn : n < 10
    · refine ⟨n.digitChar, [], Nat.toDigits_of_lt_base hn, ?_⟩
      intro hzero
      have hvalue := Nat.toNat_digitChar_of_lt_ten hn
      rw [hzero] at hvalue
      change 48 = 48 + n at hvalue
      omega
    · obtain ⟨c, cs, hdigits, hc⟩ := ih (n / 10) (by omega) (by omega)
      refine ⟨c, cs ++ [(n % 10).digitChar], ?_, hc⟩
      rw [Nat.toDigits_of_base_le (by decide) (by omega), hdigits, List.cons_append]

/-- One digit of a base. -/
def digitOf (base : Nat) : Scan Nat := do
  let d ← hexDigit
  if d < base then return d else failure

/-- A digit after the first, with an underscore before it or without. -/
def laterDigit (base : Nat) : Scan Nat := do
  let _ ← optional (char '_')
  digitOf base

theorem digits_eq (base : Nat) :
    digits base = digitOf base >>= fun first => (first :: ·) <$> many (laterDigit base) := rfl

theorem run_digitOf {d : Char} (hd : d.isDigit = true) (rest : List Char) :
    (digitOf 10).run (d :: rest) = some (digitValue d, rest) := by
  obtain ⟨hvalue, hlt⟩ := hexValue?_of_isDigit hd
  simp [digitOf, hexDigit, hvalue, hlt]

theorem run_laterDigit {d : Char} (hd : d.isDigit = true) (rest : List Char) :
    (laterDigit 10).run (d :: rest) = some (digitValue d, rest) := by
  have hmark : d ≠ '_' := by
    rintro rfl
    exact absurd hd (by decide)
  have hskip : (optional (char '_')).run (d :: rest) = some (none, d :: rest) :=
    run_optional_of_none (by rw [run_char_cons, if_neg hmark])
  exact (run_bind_of_some hskip _).trans (run_digitOf hd rest)

theorem run_laterDigit_newline (rest : List Char) :
    (laterDigit 10).run ('\n' :: rest) = none := by
  have hskip : (optional (char '_')).run ('\n' :: rest) = some (none, '\n' :: rest) :=
    run_optional_of_none (by simp)
  rw [laterDigit, run_bind_of_some hskip]
  simp [digitOf, hexDigit, hexValue?]

theorem run_digits {ds : List Char} (hds : ∀ d ∈ ds, d.isDigit = true) (hne : ds ≠ [])
    (rest : List Char) :
    (digits 10).run (ds ++ '\n' :: rest) = some (ds.map digitValue, '\n' :: rest) := by
  cases ds with
  | nil => exact absurd rfl hne
  | cons d ds =>
    have hlater : (many (laterDigit 10)).run (ds ++ '\n' :: rest) =
        some (ds.map digitValue, '\n' :: rest) := by
      have hmany := run_many_flatMap ([·]) digitValue
        (fun c hc => run_laterDigit (hds c (List.mem_cons_of_mem _ hc)))
        (fun c _ => List.cons_ne_nil c []) (run_laterDigit_newline rest)
      rwa [List.flatMap_singleton'] at hmany
    rw [digits_eq, List.cons_append, run_bind_of_some (run_digitOf (hds d List.mem_cons_self) _),
      run_map_of_some hlater, List.map_cons]

theorem run_wholeDigits_cons {c : Char} (hc : c ≠ '0') (cs : List Char) :
    wholeDigits.run (c :: cs) = (digits 10).run (c :: cs) := by
  have hget : StateT.run (get : Scan (List Char)) (c :: cs) = some (c :: cs, c :: cs) := rfl
  rw [wholeDigits, run_bind_of_some hget]
  split
  next heq => exact absurd (List.cons.inj heq).1 hc
  next => rfl

theorem run_wholeDigits (n : Nat) (rest : List Char) :
    wholeDigits.run (Nat.toDigits 10 n ++ '\n' :: rest) =
      some ((Nat.toDigits 10 n).map digitValue, '\n' :: rest) := by
  rcases Nat.eq_zero_or_pos n with rfl | hpos
  · rfl
  · obtain ⟨c, cs, hdigits, hc⟩ := toDigits_eq_cons hpos
    have hall : ∀ d ∈ Nat.toDigits 10 n, d.isDigit = true :=
      fun d hd => Nat.isDigit_of_mem_toDigits (by decide) (by decide) hd
    have hread := run_digits hall Nat.toDigits_ne_nil rest
    rw [hdigits, List.cons_append] at hread ⊢
    rw [run_wholeDigits_cons hc, hread]

theorem run_number {n : Nat} (h : (n : Int) ≤ maxInteger) (rest : List Char) :
    number.run (Nat.toDigits 10 n ++ '\n' :: rest) = some (.integer n, '\n' :: rest) := by
  have hline := digitLine_toDigits n rest
  have hmin : minInteger ≤ (n : Int) := by
    unfold minInteger
    omega
  have hdecimal : decimalNumber.run (Nat.toDigits 10 n ++ '\n' :: rest) =
      some (.integer n, '\n' :: rest) := by
    rw [decimalNumber, run_bind_of_some hline.run_sign, run_bind_of_some (run_wholeDigits n rest),
      run_bind_of_some (run_peek _), ofDigits_toDigits]
    change StateT.run (integerInRange n) _ = _
    rw [integerInRange, if_pos ⟨hmin, h⟩]
    rfl
  unfold number
  rw [run_orElse_of_none (run_map_of_none hline.run_moment _),
    run_orElse_of_none (hline.run_basedInteger rfl (by decide : IsMark 'x') 16),
    run_orElse_of_none (hline.run_basedInteger rfl (by decide : IsMark 'o') 8),
    run_orElse_of_none (hline.run_basedInteger rfl (by decide : IsMark 'b') 2),
    run_orElse_of_none hline.run_specialFloat, hdecimal]

end TrackStore.Toml
