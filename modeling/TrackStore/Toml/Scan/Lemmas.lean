import TrackStore.Toml.Scan

/-! # What readers do at the front of a text

One equation for each reader. Those that look at one character decide by it, and `many` reads the
pieces of a text one after the other if it can read each of them whatever follows.
-/

namespace TrackStore.Toml.Scan

variable {α : Type}

@[simp] theorem run_peek (cs : List Char) : peek.run cs = some (cs.head?, cs) := rfl

@[simp] theorem run_satisfy_cons (p : Char → Bool) (c : Char) (cs : List Char) :
    (satisfy p).run (c :: cs) = if p c then some (c, cs) else none := rfl

@[simp] theorem run_char_cons (c d : Char) (cs : List Char) :
    (char c).run (d :: cs) = if d = c then some ((), cs) else none := by
  by_cases h : d = c <;> simp [char, h]

@[simp] theorem run_char_nil (c : Char) : (char c).run [] = none := rfl

@[simp] theorem run_takeWhile (p : Char → Bool) (cs : List Char) :
    (takeWhile p).run cs = some (cs.takeWhile p, cs.dropWhile p) := rfl

theorem run_literal (expected : String) (cs : List Char) :
    (literal expected).run cs =
      if expected.toList.isPrefixOf cs then some ((), cs.drop expected.toList.length) else none :=
  rfl

theorem run_literal_append (expected : String) (cs : List Char) :
    (literal expected).run (expected.toList ++ cs) = some ((), cs) := by
  rw [run_literal, if_pos (by simp), List.drop_left]

section Sequence
variable {β : Type} {p : Scan α} {cs rest : List Char} {a : α}

theorem run_bind_of_some (h : p.run cs = some (a, rest)) (f : α → Scan β) :
    (p >>= f).run cs = (f a).run rest := by
  rw [StateT.run_bind, h]
  rfl

theorem run_bind_of_none (h : p.run cs = none) (f : α → Scan β) : (p >>= f).run cs = none := by
  rw [StateT.run_bind, h]
  rfl

theorem run_map_of_some (h : p.run cs = some (a, rest)) (f : α → β) :
    (f <$> p).run cs = some (f a, rest) := by
  rw [StateT.run_map, h]
  rfl

theorem run_map_of_none (h : p.run cs = none) (f : α → β) : (f <$> p).run cs = none := by
  rw [StateT.run_map, h]
  rfl

end Sequence

theorem run_optional (p : Scan α) (cs : List Char) :
    (optional p).run cs =
      match p.run cs with
      | some (a, rest) => some (some a, rest)
      | none => some (none, cs) := by
  have h : (optional p).run cs = ((some <$> p).run cs <|> some (none, cs)) := rfl
  rw [h, StateT.run_map]
  cases p.run cs <;> rfl

theorem run_optional_of_none {p : Scan α} {cs : List Char} (h : p.run cs = none) :
    (optional p).run cs = some (none, cs) := by
  rw [run_optional, h]

theorem run_takeSome {p : Char → Bool} {cs : List Char} (h : cs.takeWhile p ≠ []) :
    (takeSome p).run cs = some (cs.takeWhile p, cs.dropWhile p) := by
  simp [takeSome, h]

/-- A reader is tried where the one before it failed. -/
theorem run_orElse_of_none {p q : Scan α} {cs : List Char} (h : p.run cs = none) :
    (p <|> q).run cs = q.run cs := by
  change (p.run cs <|> q.run cs) = q.run cs
  rw [h]
  rfl

theorem run_orElse_of_some {p q : Scan α} {cs : List Char} {r : α × List Char}
    (h : p.run cs = some r) : (p <|> q).run cs = some r := by
  change (p.run cs <|> q.run cs) = some r
  rw [h]
  rfl

theorem run_many (p : Scan α) (cs : List Char) : (many p).run cs = some (many.go p cs) := rfl

theorem many_go_of_none {p : Scan α} {cs : List Char} (h : p.run cs = none) :
    many.go p cs = ([], cs) := by
  rw [many.go, h]

theorem many_go_of_some {p : Scan α} {cs rest : List Char} {a : α} (h : p.run cs = some (a, rest))
    (hlt : rest.length < cs.length) :
    many.go p cs = (a :: (many.go p rest).1, (many.go p rest).2) := by
  rw [many.go, h]
  simp only [if_pos hlt]

theorem run_many_of_none {p : Scan α} {cs : List Char} (h : p.run cs = none) :
    (many p).run cs = some ([], cs) := by
  rw [run_many, many_go_of_none h]

/-- A text in pieces, each of which is read whatever follows it, up to where nothing can be read. -/
theorem run_many_flatMap {β : Type} {p : Scan α} (text : β → List Char) (value : β → α)
    {items : List β} {stop : List Char}
    (hread : ∀ b ∈ items, ∀ rest, p.run (text b ++ rest) = some (value b, rest))
    (hne : ∀ b ∈ items, text b ≠ []) (hstop : p.run stop = none) :
    (many p).run (items.flatMap text ++ stop) = some (items.map value, stop) := by
  rw [run_many]
  congr 1
  induction items with
  | nil => exact many_go_of_none hstop
  | cons b items ih =>
    have hrest := ih (fun b hb => hread b (List.mem_cons_of_mem _ hb))
      fun b hb => hne b (List.mem_cons_of_mem _ hb)
    have hfirst := hread b List.mem_cons_self (items.flatMap text ++ stop)
    have hpos := List.length_pos_iff.mpr (hne b List.mem_cons_self)
    have hlt : (items.flatMap text ++ stop).length <
        (text b ++ (items.flatMap text ++ stop)).length := by
      simpa only [List.length_append, Nat.lt_add_left_iff_pos] using hpos
    rw [List.flatMap_cons, List.append_assoc, many_go_of_some hfirst hlt, hrest, List.map_cons]

/-- Whatever the reader reads, it leaves a text with the property if it was given one. -/
def Keeps (P : List Char → Prop) (p : Scan α) : Prop :=
  ∀ ⦃cs a rest⦄, P cs → p.run cs = some (a, rest) → P rest

theorem Keeps.pure (P : List Char → Prop) (a : α) : Keeps P (pure a : Scan α) := by
  intro cs b rest hP h
  cases h
  exact hP

theorem Keeps.failure (P : List Char → Prop) : Keeps P (failure : Scan α) := by
  intro cs a rest _ h
  cases h

theorem Keeps.bind {β : Type} {P : List Char → Prop} {p : Scan α} {f : α → Scan β}
    (hp : Keeps P p) (hf : ∀ a, Keeps P (f a)) : Keeps P (p >>= f) := by
  intro cs b rest hP h
  rw [StateT.run_bind] at h
  obtain ⟨⟨a, middle⟩, hfirst, hlater⟩ := Option.bind_eq_some_iff.mp h
  exact hf a (hp hP hfirst) hlater

theorem Keeps.mapM {β : Type} {P : List Char → Prop} {f : β → Scan α} (hf : ∀ b, Keeps P (f b))
    (bs : List β) : Keeps P (bs.mapM f) := by
  induction bs with
  | nil =>
    rw [List.mapM_nil]
    exact .pure P []
  | cons b bs ih =>
    rw [List.mapM_cons]
    exact (hf b).bind fun a => ih.bind fun as => .pure P (a :: as)

/-- A reader fails where another comes first that leaves a text on which the rest fails. -/
theorem Keeps.run_bind_eq_none {β : Type} {P : List Char → Prop} {p : Scan α} {f : α → Scan β}
    {cs : List Char} (hp : Keeps P p) (hP : P cs) (hf : ∀ a rest, P rest → (f a).run rest = none) :
    (p >>= f).run cs = none := by
  cases h : p.run cs with
  | none => exact run_bind_of_none h f
  | some r => exact (run_bind_of_some h f).trans (hf r.1 r.2 (hp hP h))

end TrackStore.Toml.Scan
