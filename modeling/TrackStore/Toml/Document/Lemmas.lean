import TrackStore.Toml.Document
import TrackStore.Toml.Grammar.Lemmas

/-! # Reading documents of entries

A document whose lines give values to different bare keys is read as the table of these keys with
their values, in the order of the lines.
-/

namespace TrackStore.Toml

open Scan

theorem sectionsOf_entries (es : List Entry) : sectionsOf (es.map Line.entry) = (es, []) := by
  induction es with
  | nil => rfl
  | cons e es ih => simp [sectionsOf, ih]

/-- An entry with a bare key is added at the end of a table that does not have the key. -/
theorem insert_bare {t : Table} {key : String} (h : key ∉ t.map (·.1)) (v : Value) :
    t.insert [] key v = some (t ++ [(key, v)]) := by
  have hnew : t.lookup key = none := by
    refine List.lookup_eq_none_iff.mpr fun entry hentry => ?_
    rw [bne_iff_ne]
    rintro rfl
    exact h (List.mem_map_of_mem hentry)
  have horigin : ((Origin.header == .dotted) == ([] : List String).isEmpty) = false := rfl
  simp only [Table.insert, Table.modifyAt, Table.addEntry, horigin, Table.find?, hnew,
    Bool.false_eq_true, if_false, Option.isSome_none]

section Entries
variable {β : Type} {items : List β} {key : β → String} {text : β → List Char} {val : β → Value}

theorem addEntries_bare (t : Table) (h : (t.map (·.1) ++ items.map key).Nodup) :
    addEntries (items.map fun b => (⟨[], key b⟩, val b)) t =
      some (t ++ items.map fun b => (key b, val b)) := by
  induction items generalizing t with
  | nil => simp [addEntries]
  | cons b items ih =>
    have hnew : key b ∉ t.map (·.1) := by
      intro hmem
      exact (List.nodup_append.mp h).2.2 _ hmem _ List.mem_cons_self rfl
    have hrest := ih (t ++ [(key b, val b)]) (by simpa using h)
    simp only [addEntries, List.map_cons, List.foldlM_cons, insert_bare hnew, Option.bind_eq_bind,
      Option.bind_some] at hrest ⊢
    rw [hrest, List.append_assoc, List.singleton_append]

theorem tableOfLines_entries (h : (items.map key).Nodup) :
    tableOfLines (items.map fun b => .entry (⟨[], key b⟩, val b)) =
      some (items.map fun b => (key b, val b)) := by
  have hlines : (items.map fun b => Line.entry (⟨[], key b⟩, val b)) =
      (items.map fun b => ((⟨[], key b⟩, val b) : Entry)).map Line.entry := by
    rw [List.map_map]
    rfl
  have hadd : addEntries (items.map fun b => (⟨[], key b⟩, val b)) [] =
      some (items.map fun b => (key b, val b)) := addEntries_bare [] h
  rw [hlines, tableOfLines, sectionsOf_entries]
  simpa [addSection] using hadd

theorem run_byteOrderMark (hbare : ∀ b ∈ items, IsBare (key b)) :
    let cs := items.flatMap fun b => entryText (key b) (text b)
    (optional byteOrderMark).run cs = some (none, cs) := by
  refine run_optional_of_none ?_
  cases items with
  | nil => simp [byteOrderMark]
  | cons b items =>
    obtain ⟨c, cs, hkey, hc⟩ := (hbare b List.mem_cons_self).cons
    have hmark : c ≠ '\ufeff' := ne_of_isBareKey hc (by decide)
    simp [byteOrderMark, entryText, hkey, hmark]

theorem run_lines (hbare : ∀ b ∈ items, IsBare (key b))
    (hwrites : ∀ b ∈ items, Writes (text b) (val b)) :
    lines.run (items.flatMap fun b => entryText (key b) (text b)) =
      some (items.map fun b => .entry (⟨[], key b⟩, val b), []) := by
  have hmany := run_many_flatMap (fun b => entryText (key b) (text b))
    (fun b => Line.entry (⟨[], key b⟩, val b)) (fun b hb => run_line (hbare b hb) (hwrites b hb))
    (fun b _ => by simp [entryText]) run_line_nil
  rw [List.append_nil] at hmany
  rw [lines, run_bind_of_some (run_byteOrderMark hbare), run_bind_of_some hmany]
  rfl

/-- Lines that give values to different bare keys are read as those keys with their values. -/
theorem read_entries (hbare : ∀ b ∈ items, IsBare (key b))
    (hwrites : ∀ b ∈ items, Writes (text b) (val b)) (hkeys : (items.map key).Nodup) :
    read (.ofList (items.flatMap fun b => entryText (key b) (text b))) =
      some (items.map fun b => (key b, val b)) := by
  rw [read, String.toList_ofList, run_lines hbare hwrites, Option.bind_eq_bind, Option.bind_some]
  exact tableOfLines_entries hkeys

end Entries

end TrackStore.Toml
