import TrackStore.Proofs.Lookup.Scan

/-! # The plain scan

Reading the live rows in ascending order until one has the value: what it answers in terms of the
slots of the field.
-/
namespace TrackStore.Store

/-- Reads row after row until one has the value. -/
def firstMatch (s : Store) (t : FieldType) (field : FieldId) (v : t.Value) :
    List Row → Except Error (Option Row)
  | [] => return none
  | row :: rows => do
    let found ← s.getValue t field row
    if found.any (t.equals · v) then return some row
    else firstMatch s t field v rows

variable {s : Store} {t : FieldType} {field : FieldId} {v : t.Value}

/-- A row that the plain scan passes. -/
def Passes (s : Store) (t : FieldType) (field : FieldId) (v : t.Value) (row : Row) : Prop :=
  ∀ bytes, s.slot field row = some bytes → t.Differs v bytes

theorem firstMatch_cons (hs : s.WellFormed) (htype : s.checkType t field = .ok ()) {row : Row}
    (hlive : s.isLive row = true) (rows : List Row) :
    (s.Passes t field v row ∧
      s.firstMatch t field v (row :: rows) = s.firstMatch t field v rows) ∨
    (∃ bytes, s.slot field row = some bytes ∧ t.Holds v bytes ∧
      s.firstMatch t field v (row :: rows) = .ok (some row)) ∨
    ∃ bytes cause, s.slot field row = some bytes ∧ t.Undecodable bytes ∧
      s.firstMatch t field v (row :: rows) = .error (.codec cause) := by
  have hread := getValue_of_live hs hlive htype
  cases hslot : s.slot field row with
  | none =>
    rw [hslot] at hread
    refine .inl ⟨by simp [Passes, hslot], ?_⟩
    simp [firstMatch, hread, pure, Except.pure, bind, Except.bind]
  | some bytes =>
    rw [hslot] at hread
    rcases t.holds_or_differs_or_undecodable v bytes with hholds | hdiffers | hu
    · obtain ⟨w, hw, heq⟩ := id hholds
      refine .inr (.inl ⟨bytes, rfl, hholds, ?_⟩)
      simp [firstMatch, hread, decodeSlot_of_ok hw, heq, pure, Except.pure, bind, Except.bind]
    · obtain ⟨w, hw, hne⟩ := id hdiffers
      refine .inl ⟨by simpa [Passes, hslot] using hdiffers, ?_⟩
      simp [firstMatch, hread, decodeSlot_of_ok hw, hne, bind, Except.bind]
    · obtain ⟨cause, hcause⟩ := decodeSlot_of_undecodable hu
      refine .inr (.inr ⟨bytes, cause, rfl, hu, ?_⟩)
      simp [firstMatch, hread, hcause, bind, Except.bind]

theorem Passes.not_holds {row : Row} (h : s.Passes t field v row) {bytes : Bytes}
    (hslot : s.slot field row = some bytes) : ¬ t.Holds v bytes :=
  fun hholds => hholds.not_differs (h bytes hslot)

theorem Passes.not_undecodable {row : Row} (h : s.Passes t field v row) {bytes : Bytes}
    (hslot : s.slot field row = some bytes) : ¬ t.Undecodable bytes :=
  (h bytes hslot).not_undecodable

theorem firstMatch_eq_none (hs : s.WellFormed) (htype : s.checkType t field = .ok ())
    {rows : List Row} (hlive : ∀ row ∈ rows, s.isLive row = true) :
    s.firstMatch t field v rows = .ok none ↔ ∀ row ∈ rows, s.Passes t field v row := by
  induction rows with
  | nil => simp [firstMatch, pure, Except.pure]
  | cons row rows ih =>
    rw [List.forall_mem_cons] at hlive ⊢
    rcases firstMatch_cons hs htype hlive.1 rows with ⟨hpass, heq⟩ | ⟨bytes, hslot, hholds, heq⟩ |
      ⟨bytes, cause, hslot, hu, heq⟩
    · rw [heq, ih hlive.2]
      exact (and_iff_right hpass).symm
    · rw [heq]
      exact ⟨fun he => (nomatch he), fun hall => absurd hholds (hall.1.not_holds hslot)⟩
    · rw [heq]
      exact ⟨fun he => (nomatch he), fun hall => absurd hu (hall.1.not_undecodable hslot)⟩

theorem firstMatch_eq_some (hs : s.WellFormed) (htype : s.checkType t field = .ok ())
    {rows : List Row} (hlive : ∀ row ∈ rows, s.isLive row = true)
    (hascending : rows.Pairwise (· < ·)) (found : Row) :
    s.firstMatch t field v rows = .ok (some found) ↔
      found ∈ rows ∧ (∃ bytes, s.slot field found = some bytes ∧ t.Holds v bytes) ∧
        ∀ row ∈ rows, row < found → s.Passes t field v row := by
  induction rows with
  | nil => simp [firstMatch, pure, Except.pure]
  | cons row rows ih =>
    rw [List.forall_mem_cons] at hlive
    obtain ⟨hbelow, hascending⟩ := List.pairwise_cons.mp hascending
    -- A row that does not pass ends the scan, so a row behind it is not found.
    have behind (hstop : ¬ s.Passes t field v row)
        (hfound : found ∈ rows ∧ ∀ r ∈ row :: rows, r < found → s.Passes t field v r) : False :=
      hstop (hfound.2 row List.mem_cons_self (hbelow found hfound.1))
    rcases firstMatch_cons hs htype hlive.1 rows with ⟨hpass, heq⟩ | ⟨bytes, hslot, hholds, heq⟩ |
      ⟨bytes, cause, hslot, hu, heq⟩
    · rw [heq, ih hlive.2 hascending]
      constructor
      · rintro ⟨hmem, hholds, hall⟩
        exact ⟨List.mem_cons_of_mem _ hmem, hholds,
          List.forall_mem_cons.mpr ⟨fun _ => hpass, hall⟩⟩
      · rintro ⟨hmem, ⟨bytes, hslot, hholds⟩, hall⟩
        rcases List.mem_cons.mp hmem with rfl | hmem
        · exact absurd hholds (hpass.not_holds hslot)
        · exact ⟨hmem, ⟨bytes, hslot, hholds⟩, (List.forall_mem_cons.mp hall).2⟩
    · rw [heq]
      constructor
      · intro he
        cases he
        refine ⟨List.mem_cons_self, ⟨bytes, hslot, hholds⟩, ?_⟩
        rintro r hr hlt
        rcases List.mem_cons.mp hr with rfl | hr
        · exact absurd hlt (Nat.lt_irrefl _)
        · exact absurd hlt (Nat.lt_asymm (hbelow r hr))
      · rintro ⟨hmem, -, hall⟩
        rcases List.mem_cons.mp hmem with rfl | hmem
        · rfl
        · exact (behind (fun hp => hp.not_holds hslot hholds) ⟨hmem, hall⟩).elim
    · rw [heq]
      constructor
      · intro he
        cases he
      · rintro ⟨hmem, ⟨bytes', hslot', hholds⟩, hall⟩
        rcases List.mem_cons.mp hmem with rfl | hmem
        · cases hslot.symm.trans hslot'
          exact absurd hu hholds.not_undecodable
        · exact (behind (fun hp => hp.not_undecodable hslot hu) ⟨hmem, hall⟩).elim

theorem codec_of_firstMatch (hs : s.WellFormed) (htype : s.checkType t field = .ok ())
    {rows : List Row} (hlive : ∀ row ∈ rows, s.isLive row = true) {e : Error}
    (h : s.firstMatch t field v rows = .error e) : ∃ cause, e = .codec cause := by
  induction rows with
  | nil => cases h
  | cons row rows ih =>
    rw [List.forall_mem_cons] at hlive
    rcases firstMatch_cons hs htype hlive.1 rows with ⟨-, heq⟩ | ⟨-, -, -, heq⟩ |
      ⟨-, cause, -, -, heq⟩
    · exact ih hlive.2 (heq ▸ h)
    · rw [heq] at h
      cases h
    · rw [heq] at h
      cases h
      exact ⟨cause, rfl⟩

theorem mem_toList_column {column : Column} (hc : s.column field = .ok column) (row : Row)
    (bytes : Bytes) : (row, bytes) ∈ column.toList ↔ s.slot field row = some bytes := by
  rw [slot_of_column hc, Std.ExtTreeMap.mem_toList_iff_getElem?_eq_some]

theorem mem_liveRows (s : Store) (row : Row) : row ∈ s.liveRows ↔ s.isLive row = true :=
  s.rows.mem_liveRows row

/-- The plain scan in terms of all slots of the field: it comes to the lowest row with the value, if
every slot that cannot be read is above that row. -/
theorem firstMatch_eq_ok (hs : s.WellFormed) (htype : s.checkType t field = .ok ())
    {column : Column} (hc : s.column field = .ok column) (found : Option Row) :
    s.firstMatch t field v s.liveRows = .ok found ↔
      IsLowest t v column.toList found ∧
        ∀ slot ∈ column.toList, t.Undecodable slot.2 → found.any (· < slot.1) = true := by
  have hlive (row : Row) (h : row ∈ s.liveRows) : s.isLive row = true := (s.mem_liveRows row).mp h
  have live_of_slot {row : Row} {bytes : Bytes} (h : s.slot field row = some bytes) :
      row ∈ s.liveRows := (s.mem_liveRows row).mpr (hs.slots field row (by simp [h]))
  have hmem := mem_toList_column hc
  cases found with
  | none =>
    rw [firstMatch_eq_none hs htype hlive]
    constructor
    · intro hall
      refine ⟨fun ⟨row, bytes⟩ hslot => ?_, fun ⟨row, bytes⟩ hslot hu => ?_⟩
      · have hslot := (hmem row bytes).mp hslot
        exact (hall row (live_of_slot hslot)).not_holds hslot
      · have hslot := (hmem row bytes).mp hslot
        exact absurd hu ((hall row (live_of_slot hslot)).not_undecodable hslot)
    · rintro ⟨hnone, hread⟩ row - bytes hslot
      have hslot := (hmem row bytes).mpr hslot
      rcases t.holds_or_differs_or_undecodable v bytes with hh | hd | hu
      · exact absurd hh (hnone _ hslot)
      · exact hd
      · simpa using hread _ hslot hu
  | some found =>
    rw [firstMatch_eq_some hs htype hlive s.rows.pairwise_liveRows]
    simp only [Option.any_some, decide_eq_true_eq]
    constructor
    · rintro ⟨-, ⟨bytes, hslot, hholds⟩, hall⟩
      have not_below {row : Row} {b : Bytes} (hb : s.slot field row = some b)
          (hlt : row < found) : t.Differs v b := hall row (live_of_slot hb) hlt b hb
      refine ⟨⟨⟨bytes, (hmem found bytes).mpr hslot, hholds⟩, fun ⟨row, b⟩ hb hh => ?_⟩,
        fun ⟨row, b⟩ hb hu => ?_⟩
      · by_contra hlt
        exact hh.not_differs (not_below ((hmem row b).mp hb) (Nat.lt_of_not_le hlt))
      · have hb := (hmem row b).mp hb
        rcases Nat.lt_trichotomy row.id found.id with hlt | heq | hgt
        · exact absurd hu (not_below hb hlt).not_undecodable
        · have hrow : row = found := by cases row; cases found; simp_all
          subst hrow
          cases hslot.symm.trans hb
          exact absurd hu hholds.not_undecodable
        · exact hgt
    · rintro ⟨⟨⟨bytes, hslot, hholds⟩, hle⟩, hread⟩
      have hslot := (hmem found bytes).mp hslot
      refine ⟨live_of_slot hslot, ⟨bytes, hslot, hholds⟩, fun row _ hlt b hb => ?_⟩
      have hb := (hmem row b).mpr hb
      rcases t.holds_or_differs_or_undecodable v b with hh | hd | hu
      · exact absurd hlt (Nat.not_lt.mpr (hle _ hb hh))
      · exact hd
      · exact absurd hlt (Nat.lt_asymm (hread _ hb hu))

end TrackStore.Store
