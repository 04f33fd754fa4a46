import TrackStore.Toml.Grammar
import TrackStore.Toml.Number.Lemmas

/-! # Reading lines

A line that gives a bare key a whole number, a truth value or a plain text is read as that entry,
whatever lines follow it.
-/

namespace TrackStore.Toml

open Scan

theorem run_blanks (cs : List Char) : blanks.run cs = some ((), cs.dropWhile isBlank) := by
  simp [blanks]

theorem run_blanks_cons {c : Char} (h : isBlank c = false) (cs : List Char) :
    blanks.run (c :: cs) = some ((), c :: cs) := by
  rw [run_blanks, List.dropWhile_cons_of_neg (by simp [h])]

theorem run_blanks_space {c : Char} (h : isBlank c = false) (cs : List Char) :
    blanks.run (' ' :: c :: cs) = some ((), c :: cs) := by
  rw [run_blanks, List.dropWhile_cons_of_pos rfl, List.dropWhile_cons_of_neg (by simp [h])]

theorem run_newline (cs : List Char) : newline.run ('\n' :: cs) = some ((), cs) :=
  run_orElse_of_some (run_literal_append "\n" cs)

theorem run_newline_cons {c : Char} (hn : c ≠ '\n') (hr : c ≠ '\r') (cs : List Char) :
    newline.run (c :: cs) = none := by
  rw [newline, run_orElse_of_none] <;> simp [run_literal, hn.symm, hr.symm]

theorem run_comment_cons {c : Char} (h : c ≠ '#') (cs : List Char) :
    comment.run (c :: cs) = none := by
  simp [comment, h]

theorem run_lineEnd (cs : List Char) : lineEnd.run ('\n' :: cs) = some ((), cs) := by
  have hcomment := run_optional_of_none (run_comment_cons (by decide : '\n' ≠ '#') cs)
  have hend : (newline <|> atEnd).run ('\n' :: cs) = some ((), cs) :=
    run_orElse_of_some (run_newline cs)
  rw [lineEnd, run_bind_of_some (run_blanks_cons (by decide) _), run_bind_of_some hcomment, hend]

theorem ne_of_isBareKey {c d : Char} (hc : isBareKey c = true) (hd : isBareKey d = false) :
    c ≠ d := by
  rintro rfl
  exact Bool.false_ne_true (hd.symm.trans hc)

theorem isBlank_of_isBareKey {c : Char} (h : isBareKey c = true) : isBlank c = false := by
  have hspace := ne_of_isBareKey h (by decide : isBareKey ' ' = false)
  have htab := ne_of_isBareKey h (by decide : isBareKey '\t' = false)
  simp [isBlank, hspace, htab]

/-- The key can be written without quotes. -/
structure IsBare (key : String) : Prop where
  nonempty : key.toList ≠ []
  bare : ∀ c ∈ key.toList, isBareKey c = true

theorem IsBare.cons {key : String} (h : IsBare key) :
    ∃ c cs, key.toList = c :: cs ∧ isBareKey c = true := by
  obtain ⟨c, cs, hkey⟩ := List.exists_cons_of_ne_nil h.nonempty
  exact ⟨c, cs, hkey, h.bare c (hkey ▸ List.mem_cons_self)⟩

theorem run_simpleKey {key : String} (h : IsBare key) (rest : List Char) :
    simpleKey.run (key.toList ++ ' ' :: rest) = some (key, ' ' :: rest) := by
  have htake : (key.toList ++ ' ' :: rest).takeWhile isBareKey = key.toList := by
    rw [List.takeWhile_append_of_pos h.bare, List.takeWhile_cons_of_neg (by decide),
      List.append_nil]
  have hdrop : (key.toList ++ ' ' :: rest).dropWhile isBareKey = ' ' :: rest := by
    rw [List.dropWhile_append_of_pos h.bare, List.dropWhile_cons_of_neg (by decide)]
  have htakeSome := run_takeSome (htake.symm ▸ h.nonempty)
  rw [htake, hdrop] at htakeSome
  rw [simpleKey, run_orElse_of_some (run_map_of_some htakeSome _), String.ofList_toList]

/-- One part of a dotted key. -/
def keyPart : Scan String := do
  blanks
  let k ← simpleKey
  blanks
  return k

theorem dottedKey_eq : dottedKey = separated keyPart (char '.') >>= fun parts =>
    match parts.getLast? with
    | some last => if parts.length ≤ maxKeyParts then return ⟨parts.dropLast, last⟩ else failure
    | none => failure := rfl

theorem run_keyPart {key : String} (h : IsBare key) (rest : List Char) :
    keyPart.run (key.toList ++ ' ' :: '=' :: rest) = some (key, '=' :: rest) := by
  obtain ⟨c, cs, hkey, hc⟩ := h.cons
  have hblanks : blanks.run (key.toList ++ ' ' :: '=' :: rest) =
      some ((), key.toList ++ ' ' :: '=' :: rest) := by
    rw [hkey]
    exact run_blanks_cons (isBlank_of_isBareKey hc) _
  rw [keyPart, run_bind_of_some hblanks, run_bind_of_some (run_simpleKey h _),
    run_bind_of_some (run_blanks_space (by decide) _)]
  rfl

theorem run_separated_one {α : Type} {item : Scan α} {separator : Scan Unit} {cs rest : List Char}
    {a : α} (hitem : item.run cs = some (a, rest)) (hstop : separator.run rest = none) :
    (separated item separator).run cs = some ([a], rest) := by
  have hmany : (many do separator; item).run rest = some ([], rest) :=
    run_many_of_none (run_bind_of_none hstop _)
  rw [separated, run_bind_of_some hitem, run_bind_of_some hmany]
  rfl

theorem run_dottedKey {key : String} (h : IsBare key) (rest : List Char) :
    dottedKey.run (key.toList ++ ' ' :: '=' :: rest) = some (⟨[], key⟩, '=' :: rest) := by
  have hstop : (char '.').run ('=' :: rest) = none := by simp
  rw [dottedKey_eq, run_bind_of_some (run_separated_one (run_keyPart h rest) hstop)]
  rfl

/-- The text stands for the value wherever it ends a line. -/
structure Writes (text : List Char) (v : Value) : Prop where
  head : ∃ c cs, text = c :: cs ∧ isBlank c = false
  run : ∀ rest, scalar.run (text ++ '\n' :: rest) = some (v, '\n' :: rest)

theorem run_quotedText_cons {c : Char} (hdouble : c ≠ '"') (hsingle : c ≠ '\x27')
    (cs : List Char) : quotedText.run (c :: cs) = none := by
  have hmultiline : multilineBasicText.run (c :: cs) = none := by
    simp [multilineBasicText, run_literal, hdouble.symm]
  have hbasic : basicText.run (c :: cs) = none := by simp [basicText, hdouble]
  have hliteral : multilineLiteralText.run (c :: cs) = none := by
    simp [multilineLiteralText, run_literal, hsingle.symm]
  rw [quotedText, run_orElse_of_none hmultiline, run_orElse_of_none hbasic,
    run_orElse_of_none hliteral]
  simp [literalText, hsingle]

theorem run_scalar_of_not_quoted {c : Char} (hdouble : c ≠ '"') (hsingle : c ≠ '\x27')
    (cs : List Char) :
    scalar.run (c :: cs) = (Value.boolean <$> boolean <|> number).run (c :: cs) := by
  exact run_orElse_of_none (run_map_of_none (run_quotedText_cons hdouble hsingle cs) _)

theorem writes_integer {n : Nat} (h : (n : Int) ≤ maxInteger) :
    Writes (Nat.toDigits 10 n) (.integer n) := by
  obtain ⟨c, cs, hdigits⟩ := List.exists_cons_of_ne_nil (Nat.toDigits_ne_nil (n := n) (b := 10))
  have hc : c.isDigit = true := by
    refine Nat.isDigit_of_mem_toDigits (by decide) (by decide) (n := n) (b := 10) ?_
    rw [hdigits]
    exact List.mem_cons_self
  have hne {d : Char} (hd : d.isDigit = false) : c ≠ d := by
    rintro rfl
    exact Bool.false_ne_true (hd.symm.trans hc)
  refine ⟨⟨c, cs, hdigits, ?_⟩, fun rest => ?_⟩
  · simp [isBlank, hne (by decide : ' '.isDigit = false), hne (by decide : '\t'.isDigit = false)]
  · have hnumber := run_number h rest
    rw [hdigits, List.cons_append] at hnumber ⊢
    have hboolean : (Value.boolean <$> boolean).run (c :: (cs ++ '\n' :: rest)) = none := by
      have ht := hne (by decide : 't'.isDigit = false)
      have hf := hne (by decide : 'f'.isDigit = false)
      refine run_map_of_none ?_ _
      rw [boolean, run_orElse_of_none] <;> simp [run_literal, ht.symm, hf.symm]
    rw [run_scalar_of_not_quoted (hne (by decide)) (hne (by decide)), run_orElse_of_none hboolean,
      hnumber]

theorem run_boolean (b : Bool) (rest : List Char) :
    boolean.run ((toString b).toList ++ rest) = some (b, rest) := by
  cases b with
  | true => exact run_orElse_of_some (run_map_of_some (run_literal_append "true" rest) _)
  | false =>
    have htrue : (literal "true").run ("false".toList ++ rest) = none := by simp [run_literal]
    exact (run_orElse_of_none (run_map_of_none htrue _)).trans
      (run_map_of_some (run_literal_append "false" rest) _)

theorem writes_boolean (b : Bool) : Writes (toString b).toList (.boolean b) := by
  have hhead : ∃ c cs, (toString b).toList = c :: cs ∧
      isBlank c = false ∧ c ≠ '"' ∧ c ≠ '\x27' := by
    cases b with
    | true => exact ⟨'t', _, rfl, by decide⟩
    | false => exact ⟨'f', _, rfl, by decide⟩
  obtain ⟨c, cs, htext, hblank, hdouble, hsingle⟩ := hhead
  refine ⟨⟨c, cs, htext, hblank⟩, fun rest => ?_⟩
  have hread := run_map_of_some (run_boolean b ('\n' :: rest)) Value.boolean
  rw [htext, List.cons_append] at hread ⊢
  rw [run_scalar_of_not_quoted hdouble hsingle, run_orElse_of_some hread]

theorem run_multilineBasicText_of_line {cs : List Char} (hcs : ∀ c ∈ cs, c ≠ '"')
    (rest : List Char) :
    multilineBasicText.run ('"' :: (cs ++ '"' :: '\n' :: rest)) = none := by
  have hopening : (literal "\"\"\"").run ('"' :: (cs ++ '"' :: '\n' :: rest)) = none := by
    cases cs with
    | nil => simp [run_literal]
    | cons c cs => simp [run_literal, (hcs c List.mem_cons_self).symm]
  exact run_bind_of_none hopening _

/-- Such a character stands for itself between double quotes. -/
def IsVerbatim (c : Char) : Prop := isPlain c = true ∧ c ≠ '"' ∧ c ≠ '\\'

instance (c : Char) : Decidable (IsVerbatim c) :=
  inferInstanceAs (Decidable (isPlain c = true ∧ c ≠ '"' ∧ c ≠ '\\'))

theorem run_basicText {cs : List Char} (hcs : ∀ c ∈ cs, IsVerbatim c) (rest : List Char) :
    basicText.run ('"' :: (cs ++ '"' :: rest)) = some (.ofList cs, rest) := by
  let piece : Scan Char := satisfy (fun c => isPlain c && c ≠ '"' && c ≠ '\\') <|> escaped
  have hmany : (many piece).run (cs ++ '"' :: rest) = some (cs, '"' :: rest) := by
    have hread : ∀ c ∈ cs, ∀ rest, piece.run ([c] ++ rest) = some (c, rest) := by
      intro c hc rest
      obtain ⟨hplain, hquote, hslash⟩ := hcs c hc
      exact run_orElse_of_some (by simp [hplain, hquote, hslash])
    have hstop : piece.run ('"' :: rest) = none := by
      refine (run_orElse_of_none ?_).trans ?_
      · simp
      · simp [escaped]
    have hpieces := run_many_flatMap ([·]) id hread (fun c _ => List.cons_ne_nil c []) hstop
    rwa [List.flatMap_singleton', List.map_id] at hpieces
  have hopening : (char '"').run ('"' :: (cs ++ '"' :: rest)) = some ((), cs ++ '"' :: rest) := by
    simp
  rw [basicText, run_bind_of_some hopening, run_bind_of_some hmany]
  simp

theorem writes_text {s : String} (h : ∀ c ∈ s.toList, IsVerbatim c) :
    Writes ('"' :: (s.toList ++ ['"'])) (.text s) := by
  refine ⟨⟨'"', _, rfl, by decide⟩, fun rest => ?_⟩
  have hquoted : quotedText.run ('"' :: (s.toList ++ '"' :: '\n' :: rest)) =
      some (s, '\n' :: rest) := by
    have hmultiline := run_multilineBasicText_of_line (fun c hc => (h c hc).2.1) rest
    rw [quotedText, run_orElse_of_none hmultiline]
    refine run_orElse_of_some ((run_basicText h _).trans ?_)
    rw [String.ofList_toList]
  rw [List.cons_append, List.append_assoc, List.singleton_append]
  exact run_orElse_of_some (run_map_of_some hquoted _)

theorem Writes.run_value {text : List Char} {v : Value} (h : Writes text v) (depth : Nat)
    (rest : List Char) : (value depth).run (text ++ '\n' :: rest) = some (v, '\n' :: rest) := by
  cases depth with
  | zero => exact h.run rest
  | succ depth => exact run_orElse_of_some (h.run rest)

/-- A key and the text of its value on a line. -/
def entryText (key : String) (text : List Char) : List Char :=
  key.toList ++ ' ' :: '=' :: ' ' :: (text ++ ['\n'])

section Line
variable {key : String} {text : List Char} {v : Value}

theorem run_entryOf (hkey : IsBare key) (h : Writes text v) (rest : List Char) :
    (entryOf (value maxDepth)).run (key.toList ++ ' ' :: '=' :: ' ' :: (text ++ '\n' :: rest)) =
      some ((⟨[], key⟩, v), '\n' :: rest) := by
  have hvalue := h.run_value maxDepth rest
  obtain ⟨c, cs, rfl, hc⟩ := h.head
  have hblanks : blanks.run (' ' :: (c :: cs ++ '\n' :: rest)) =
      some ((), c :: cs ++ '\n' :: rest) := run_blanks_space hc _
  have hequals (cs : List Char) : (char '=').run ('=' :: cs) = some ((), cs) := by simp
  rw [entryOf, run_bind_of_some (run_dottedKey hkey _), run_bind_of_some (hequals _),
    run_bind_of_some hblanks, run_bind_of_some hvalue]
  rfl

theorem run_line (hkey : IsBare key) (h : Writes text v) (rest : List Char) :
    line.run (entryText key text ++ rest) = some (.entry (⟨[], key⟩, v), rest) := by
  have hentry : entryLine.run (entryText key text ++ rest) =
      some (.entry (⟨[], key⟩, v), rest) := by
    have htext : entryText key text ++ rest =
        key.toList ++ ' ' :: '=' :: ' ' :: (text ++ '\n' :: rest) := by
      simp [entryText]
    rw [htext, entryLine, run_bind_of_some (run_entryOf hkey h rest),
      run_bind_of_some (run_lineEnd rest)]
    rfl
  obtain ⟨c, cs, hkeyText, hc⟩ := hkey.cons
  have hne {d : Char} (hd : isBareKey d = false) : c ≠ d := ne_of_isBareKey hc hd
  -- The first character of a bare key begins no other kind of line.
  have hcons : entryText key text ++ rest =
      c :: (cs ++ ' ' :: '=' :: ' ' :: (text ++ '\n' :: rest)) := by
    simp [entryText, hkeyText]
  rw [hcons] at hentry ⊢
  have hblank (cs : List Char) : blankLine.run (c :: cs) = none :=
    run_bind_of_none (run_newline_cons (hne (by decide)) (hne (by decide)) cs) _
  have hcomment (cs : List Char) : commentLine.run (c :: cs) = none :=
    run_bind_of_none (run_comment_cons (hne (by decide)) cs) _
  have hbracket : c ≠ '[' := hne (by decide)
  have hitem (cs : List Char) : itemHeader.run (c :: cs) = none :=
    run_bind_of_none (by simp [run_literal, hbracket.symm]) _
  have htable (cs : List Char) : tableHeader.run (c :: cs) = none :=
    run_bind_of_none (by simp [hbracket]) _
  rw [line, run_bind_of_some (run_blanks_cons (isBlank_of_isBareKey hc) _),
    run_orElse_of_none (hblank _), run_orElse_of_none (hcomment _), run_orElse_of_none (hitem _),
    run_orElse_of_none (htable _), hentry]

theorem run_line_nil : line.run [] = none := by
  rfl

end Line

end TrackStore.Toml
