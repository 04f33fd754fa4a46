import TrackStore.Proofs.Lookup.Plain

/-! # Lookups in any order

The slots of a field come to a lookup in an order that nothing fixes. In any order a lookup answers
what the plain scan over the live rows answers, or an error of the codec; which of the two it is can
depend on the order where a slot above the row with the value cannot be read.
-/
namespace TrackStore.Store

variable {s : Store} {t : FieldType} {field : FieldId} {v : t.Value} {column : Column}
  {listing : Column → List (Row × Bytes)}

/-- The same row or both none, or both an error of the codec. -/
def Agrees (a b : Except Error (Option Row)) : Prop :=
  (∃ found, a = .ok found ∧ b = .ok found) ∨
    (∃ cause, a = .error (.codec cause)) ∧ ∃ cause, b = .error (.codec cause)

theorem IsLowest.perm {slots more : List (Row × Bytes)} (hperm : slots.Perm more)
    {found : Option Row} (h : IsLowest t v slots found) : IsLowest t v more found := by
  cases found with
  | none => exact fun slot hslot => h slot (hperm.mem_iff.mpr hslot)
  | some row =>
    obtain ⟨⟨bytes, hmem, hholds⟩, hle⟩ := h
    refine ⟨⟨bytes, hperm.mem_iff.mp hmem, hholds⟩, fun slot hslot => ?_⟩
    exact hle slot (hperm.mem_iff.mpr hslot)

/-- A shielded slot that cannot be read is above the answer. -/
theorem Shielded.any_lt {slots : List (Row × Bytes)} (h : Shielded t v slots) {found : Option Row}
    (hlowest : IsLowest t v slots found) {slot : Row × Bytes} (hmem : slot ∈ slots)
    (hu : t.Undecodable slot.2) : found.any (· < slot.1) = true := by
  obtain ⟨before, after, hsplit⟩ := List.append_of_mem hmem
  obtain ⟨lower, hbefore, hholds, hlt⟩ := h before slot.1 slot.2 after hsplit hu
  refine (hlowest.any_lt slot.1).mpr ⟨lower, ?_, hholds, hlt⟩
  rw [hsplit]
  exact List.mem_append_left _ hbefore

theorem shielded_of_readable {slots : List (Row × Bytes)}
    (h : ∀ slot ∈ slots, ¬ t.Undecodable slot.2) : Shielded t v slots := by
  rintro before row bytes after rfl hu
  exact absurd hu (h (row, bytes) (by simp))

theorem lookupIn_eq (htype : s.checkType t field = .ok ()) (hc : s.column field = .ok column)
    (listing : Column → List (Row × Bytes)) (v : t.Value) :
    s.lookupIn listing t field v = scan t v none (listing column) := by
  simp [lookupIn, htype, hc, bind, Except.bind]

theorem lookupIn_eq_ok (hs : s.WellFormed) (htype : s.checkType t field = .ok ())
    (hc : s.column field = .ok column) (hlisting : (listing column).Perm column.toList)
    (found : Option Row) :
    s.lookupIn listing t field v = .ok found ↔
      s.firstMatch t field v s.liveRows = .ok found ∧ Shielded t v (listing column) := by
  rw [lookupIn_eq htype hc, scan_eq_ok, firstMatch_eq_ok hs htype hc]
  constructor
  · rintro ⟨hshield, hlowest⟩
    refine ⟨⟨hlowest.perm hlisting, fun slot hslot hu => ?_⟩, hshield⟩
    exact hshield.any_lt hlowest (hlisting.mem_iff.mpr hslot) hu
  · rintro ⟨⟨hlowest, -⟩, hshield⟩
    exact ⟨hshield, hlowest.perm hlisting.symm⟩

/-- A lookup answers where every slot of the column can be read. -/
theorem lookupIn_of_readable (htype : s.checkType t field = .ok ())
    (hc : s.column field = .ok column) (hlisting : (listing column).Perm column.toList)
    (hread : ∀ slot ∈ column.toList, ¬ t.Undecodable slot.2) :
    ∃ found, s.lookupIn listing t field v = .ok found := by
  obtain ⟨found, hlowest⟩ := exists_isLowest v (listing column)
  have hshield : Shielded t v (listing column) :=
    shielded_of_readable fun slot hslot => hread slot (hlisting.mem_iff.mp hslot)
  exact ⟨found, (lookupIn_eq htype hc listing v).trans ((scan_eq_ok ..).mpr ⟨hshield, hlowest⟩)⟩

theorem not_undecodable_of_readable (hc : s.column field = .ok column)
    (hread : ∀ row, s.Readable t field row) :
    ∀ slot ∈ column.toList, ¬ t.Undecodable slot.2 := by
  rintro ⟨row, bytes⟩ hslot ⟨cause, hcause⟩
  obtain ⟨w, hw⟩ := hread row bytes ((mem_toList_column hc row bytes).mp hslot)
  cases hw.symm.trans hcause

/-- A lookup that comes through answers what the plain scan answers, and it comes through exactly if
the slots that cannot be read are shielded where the listing has them. All listings agree with the
plain scan exactly if no slot above the row that it finds is one that cannot be read. -/
theorem lookup_listings (hs : s.Reachable)
    (hd : ∃ d, s.describeField field = .ok d ∧ d.type = t) (v : t.Value) :
    let plain := s.firstMatch t field v s.liveRows
    ∃ column, s.column field = .ok column ∧
      (∀ listing : Column → List (Row × Bytes), (listing column).Perm column.toList →
        (∀ found, s.lookupIn listing t field v = .ok found ↔
          plain = .ok found ∧ Shielded t v (listing column)) ∧
        ∀ e, s.lookupIn listing t field v = .error e → ∃ cause, e = .codec cause) ∧
      (∀ e, plain = .error e → ∃ cause, e = .codec cause) ∧
      ((∀ listing : Column → List (Row × Bytes), (listing column).Perm column.toList →
          Agrees (s.lookupIn listing t field v) plain) ↔
        ∀ row, plain = .ok (some row) → ∀ slot ∈ column.toList, row < slot.1 →
          ¬ t.Undecodable slot.2) := by
  intro plain
  have hw := hs.wellFormed
  have htype := (checkType_eq_ok ..).mpr hd
  have hindex := hw.index_lt_of_checkType htype
  have hc := column_of_lt hindex
  have hplain (e : Error) (h : plain = .error e) : ∃ cause, e = .codec cause :=
    codec_of_firstMatch hw htype (fun row => (s.mem_liveRows row).mp) h
  have hcodec (listing : Column → List (Row × Bytes)) (e : Error)
      (h : s.lookupIn listing t field v = .error e) : ∃ cause, e = .codec cause :=
    codec_of_scan ((lookupIn_eq htype hc listing v).symm.trans h)
  refine ⟨_, hc, fun listing hlisting => ⟨lookupIn_eq_ok hw htype hc hlisting, hcodec listing⟩,
    hplain, ?_, ?_⟩
  · intro hall row hrow slot hslot hlt hu
    -- The listing that has the slot in front shields nothing.
    let front : Column → List (Row × Bytes) := fun c => slot :: c.toList.erase slot
    have hperm := (List.perm_cons_erase hslot).symm
    rcases hall front hperm with ⟨found, hfound, -⟩ | ⟨-, cause, herror⟩
    · have hshield := ((lookupIn_eq_ok hw htype hc hperm found).mp hfound).2
      obtain ⟨lower, hlower, -⟩ := hshield [] slot.1 slot.2 _ rfl hu
      cases hlower
    · rw [hrow] at herror
      cases herror
  · intro habove listing hlisting
    cases hanswer : plain with
    | ok found =>
      have hread : ∀ slot ∈ listing s.columns[field.index], ¬ t.Undecodable slot.2 := by
        intro slot hslot hu
        have hslot := hlisting.mem_iff.mp hslot
        have hany := ((firstMatch_eq_ok hw htype hc found).mp hanswer).2 slot hslot hu
        cases found with
        | none => cases hany
        | some row => exact habove row hanswer slot hslot (by simpa using hany) hu
      have hok := (lookupIn_eq_ok hw htype hc hlisting found).mpr
        ⟨hanswer, shielded_of_readable hread⟩
      exact .inl ⟨found, hok, rfl⟩
    | error e =>
      obtain ⟨cause, rfl⟩ := hplain e hanswer
      refine .inr ⟨?_, cause, rfl⟩
      cases hlookup : s.lookupIn listing t field v with
      | ok found =>
        have hok := ((lookupIn_eq_ok hw htype hc hlisting found).mp hlookup).1
        exact absurd (hanswer.symm.trans hok) (fun h => nomatch h)
      | error e =>
        obtain ⟨cause, rfl⟩ := hcodec listing e hlookup
        exact ⟨cause, rfl⟩

theorem lookup_listings_flag :
    let s := (withConfig { initialRowCapacity := 0 }).run
      [.createRow, .createRow, .createRow, .register { name := "flag", type := .bool },
        .setRaw ⟨0⟩ ⟨1⟩ [0], .setRaw ⟨0⟩ ⟨2⟩ [1], .setRaw ⟨0⟩ ⟨3⟩ [2]]
    let plain := s.firstMatch .bool ⟨0⟩ true s.liveRows
    s.describeField ⟨0⟩ = .ok { name := "flag", type := .bool } ∧ plain = .ok (some ⟨2⟩) ∧
      ∃ column, s.column ⟨0⟩ = .ok column ∧
        (∀ listing : Column → List (Row × Bytes), (listing column).Perm column.toList →
          ∀ found, s.lookupIn listing .bool ⟨0⟩ true = .ok found → found = some ⟨2⟩) ∧
        ∃ listing : Column → List (Row × Bytes), (listing column).Perm column.toList ∧
          ¬ Agrees (s.lookupIn listing .bool ⟨0⟩ true) plain := by
  intro s plain
  have hd : s.describeField ⟨0⟩ = .ok { name := "flag", type := .bool } := rfl
  have hplain : plain = .ok (some ⟨2⟩) := by decide
  have hslot : s.slot ⟨0⟩ ⟨3⟩ = some [2] := by decide
  obtain ⟨column, hc, hlistings, -, hagree⟩ :=
    lookup_listings (s := s) ⟨_, _, rfl⟩ ⟨_, hd, rfl⟩ true
  refine ⟨hd, hplain, column, hc, ?_, ?_⟩
  · intro listing hperm found hfound
    have hanswer := (((hlistings listing hperm).1 found).mp hfound).1
    exact Except.ok.inj (hanswer.symm.trans hplain)
  · by_contra hnone
    refine hagree.mp (fun listing hperm => by_contra fun h => hnone ⟨listing, hperm, h⟩) ⟨2⟩ hplain
      (⟨3⟩, [2]) ((mem_toList_column hc ..).mpr hslot) (by decide) ⟨_, rfl⟩

/-- One column and one value, looked up in two orders: the row with the value is found, or the slot
above it, which cannot be read, is met before. -/
theorem lookup_depends_on_listing :
    let s := (withConfig { initialRowCapacity := 0 }).run
      [.createRow, .createRow, .register { name := "flag", type := .bool },
        .setValue .bool ⟨0⟩ ⟨1⟩ true, .setRaw ⟨0⟩ ⟨2⟩ [2]]
    s.firstMatch .bool ⟨0⟩ true s.liveRows = .ok (some ⟨1⟩) ∧
      s.lookupIn (·.toList) .bool ⟨0⟩ true = .ok (some ⟨1⟩) ∧
      s.lookupIn (·.toList.reverse) .bool ⟨0⟩ true = .error (.codec (.invalidBool 2)) := by
  refine ⟨by rfl, by rfl, by rfl⟩

end TrackStore.Store
