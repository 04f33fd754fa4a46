import TrackStore.Proofs.TypeSafety

/-! # The lowest match

A lookup that comes through answers the lowest live row where the value is read, whatever the order
in which it has the slots of the field. It comes through if all slots can be read, and in no order
if one that cannot is below every match.
-/
namespace TrackStore

/-- Nothing equals a NaN, and zeros are equal whatever their sign; all other numbers equal only
themselves. -/
structure NumericEquality {α : Type} (isNaN : α → Bool) (magnitude : α → Nat)
    (equals : α → α → Bool) : Prop where
  nan : ∀ a b, isNaN a = true ∨ isNaN b = true → equals a b = false
  zeros : ∀ a b, magnitude a = 0 → magnitude b = 0 → equals a b = true
  self : ∀ a, isNaN a = false → equals a a = true
  others : ∀ a b, equals a b = true → a = b ∨ magnitude a = 0 ∧ magnitude b = 0

/-- Numbers that are written as a sign and a magnitude have one place in the order only if they are
written alike, or are zero. -/
theorem eq_of_signed_eq {weight m n : Nat} (hm : m < 2 * weight) (hn : n < 2 * weight)
    (h : (if decide (weight ≤ m) then -((m % weight : Nat) : Int) else (m % weight : Nat)) =
      if decide (weight ≤ n) then -((n % weight : Nat) : Int) else (n % weight : Nat)) :
    m = n ∨ m % weight = 0 ∧ n % weight = 0 := by
  have hmod {k : Nat} (hk : k < 2 * weight) :
      k < weight ∧ k % weight = k ∨ weight ≤ k ∧ k % weight = k - weight := by
    rcases Nat.lt_or_ge k weight with hlt | hle
    · exact .inl ⟨hlt, Nat.mod_eq_of_lt hlt⟩
    · refine .inr ⟨hle, ?_⟩
      rw [Nat.mod_eq_sub_mod hle, Nat.mod_eq_of_lt (by omega)]
  have hm := hmod hm
  have hn := hmod hn
  simp only [decide_eq_true_eq] at h
  split at h <;> split at h <;> omega

/-- Numbers that are compared by their places in the order, where only zeros share one. -/
theorem NumericEquality.of_rank {α : Type} {isNaN : α → Bool} {magnitude : α → Nat} {rank : α → Int}
    {equals : α → α → Bool} (h : ∀ a b, equals a b = (!isNaN a && !isNaN b && rank a == rank b))
    (hzero : ∀ a, magnitude a = 0 → isNaN a = false ∧ rank a = 0)
    (hrank : ∀ a b, rank a = rank b → a = b ∨ magnitude a = 0 ∧ magnitude b = 0) :
    NumericEquality isNaN magnitude equals where
  nan a b hnan := by rcases hnan with hnan | hnan <;> simp [h, hnan]
  zeros a b ha hb := by simp [h, hzero a ha, hzero b hb]
  self a ha := by simp [h, ha]
  others a b hab := by
    simp only [h, Bool.and_eq_true, beq_iff_eq] at hab
    exact hrank a b hab.2

theorem Binary64.numericEquality : NumericEquality isNaN magnitude equals := by
  refine .of_rank (fun _ _ => rfl) (fun a ha => by simp [isNaN, rank, ha]) fun a b h => ?_
  refine (eq_of_signed_eq a.bits.toNat_lt b.bits.toNat_lt h).imp_left fun hbits => ?_
  exact congrArg mk (UInt64.toNat_inj.mp hbits)

theorem Binary32.numericEquality : NumericEquality isNaN magnitude equals := by
  refine .of_rank (fun _ _ => rfl) (fun a ha => by simp [isNaN, rank, ha]) fun a b h => ?_
  refine (eq_of_signed_eq a.bits.toNat_lt b.bits.toNat_lt h).imp_left fun hbits => ?_
  exact congrArg mk (UInt32.toNat_inj.mp hbits)

namespace FieldType

/-- The values of the type have no number among their parts that equality reads by its value. -/
def FloatFree : FieldType → Prop
  | binary32 | binary64 | box | coordinate => False
  | option item | list item | array _ item => item.FloatFree
  | pair first second => first.FloatFree ∧ second.FloatFree
  | _ => True

theorem equalLists_iff {α : Type} {eq : α → α → Bool} (h : ∀ a b, eq a b = true ↔ a = b)
    (as bs : List α) : equalLists eq as bs = true ↔ as = bs := by
  induction as generalizing bs with
  | nil => cases bs <;> simp [equalLists]
  | cons a as ih => cases bs <;> simp [equalLists, h, ih]

/-- Without floats, values are equal if they are the same. -/
theorem equals_iff {t : FieldType} (h : t.FloatFree) (a b : t.Value) :
    t.equals a b = true ↔ a = b := by
  induction t with
  | binary32 | binary64 | box | coordinate => exact h.elim
  | unit => exact ⟨fun _ => rfl, fun _ => rfl⟩
  | option item ih => cases a <;> cases b <;> simp [equals, ih h]
  | list item ih => exact equalLists_iff (ih h) a b
  | array length item ih => exact (equalLists_iff (ih h) a.val b.val).trans Subtype.ext_iff.symm
  | pair first second ihfirst ihsecond =>
    rw [equals, Bool.and_eq_true, ihfirst h.1, ihsecond h.2, Prod.ext_iff]
  | _ => exact beq_iff_eq

end FieldType

namespace Store

/-- The row is live, and what is read there equals the value. -/
def Matches (s : Store) (t : FieldType) (field : FieldId) (v : t.Value) (row : Row) : Prop :=
  s.isLive row = true ∧ ∃ w, s.getValue t field row = .ok (some w) ∧ t.equals w v = true

/-- The lowest row where the value is read, or none if it is read nowhere. -/
def IsLowestMatch (s : Store) (t : FieldType) (field : FieldId) (v : t.Value) : Option Row → Prop
  | none => ∀ row, ¬ s.Matches t field v row
  | some row => s.Matches t field v row ∧ ∀ other, s.Matches t field v other → row ≤ other

section Matches
variable {s : Store} {t : FieldType} {field : FieldId} {v : t.Value} {column : Column}
  {listing : Column → List (Row × Bytes)}

theorem matches_iff (hs : s.WellFormed) (htype : s.checkType t field = .ok ()) (row : Row) :
    s.Matches t field v row ↔ ∃ bytes, s.slot field row = some bytes ∧ t.Holds v bytes := by
  constructor
  · rintro ⟨hlive, w, hw, heq⟩
    rw [getValue_of_live hs hlive htype] at hw
    cases hslot : s.slot field row with
    | none =>
      rw [hslot] at hw
      cases hw
    | some bytes =>
      refine ⟨bytes, rfl, ?_⟩
      cases hdecode : t.decode bytes with
      | error cause => simp [hslot, FieldType.decodeSlot, hdecode, Except.mapError] at hw
      | ok found =>
        simp only [hslot, Option.mapM_some, decodeSlot_of_ok hdecode] at hw
        cases hw
        exact ⟨w, hdecode, heq⟩
  · rintro ⟨bytes, hslot, w, hdecode, heq⟩
    have hlive := hs.slots field row (by simp [hslot])
    refine ⟨hlive, w, ?_, heq⟩
    rw [getValue_of_live hs hlive htype, hslot]
    simp [decodeSlot_of_ok hdecode]

/-- The lowest match among the slots of the column is the lowest among the live rows. -/
theorem isLowestMatch_iff (hs : s.WellFormed) (htype : s.checkType t field = .ok ())
    (hc : s.column field = .ok column) (found : Option Row) :
    s.IsLowestMatch t field v found ↔ IsLowest t v column.toList found := by
  have hmatches (row : Row) :
      s.Matches t field v row ↔ ∃ bytes, (row, bytes) ∈ column.toList ∧ t.Holds v bytes := by
    simp only [matches_iff hs htype, mem_toList_column hc]
  cases found with
  | none => simp only [IsLowestMatch, IsLowest, hmatches, not_exists, not_and, Prod.forall]
  | some row =>
    simp only [IsLowestMatch, IsLowest, hmatches, Prod.forall, forall_exists_index, and_imp]

theorem isLowestMatch_of_lookupIn (hs : s.WellFormed) (htype : s.checkType t field = .ok ())
    (hc : s.column field = .ok column) (hlisting : (listing column).Perm column.toList)
    {found : Option Row} (h : s.lookupIn listing t field v = .ok found) :
    s.IsLowestMatch t field v found := by
  rw [lookupIn_eq htype hc, scan_eq_ok] at h
  exact (isLowestMatch_iff hs htype hc found).mpr (h.2.perm hlisting)

/-- Nothing shields a slot below every match, so no lookup comes past one that cannot be read. -/
theorem lookupIn_of_undecodable (hs : s.WellFormed) (htype : s.checkType t field = .ok ())
    (hc : s.column field = .ok column) (hlisting : (listing column).Perm column.toList)
    {slot : Row × Bytes} (hslot : slot ∈ column.toList) (hu : t.Undecodable slot.2)
    (hbelow : ∀ row, s.Matches t field v row → slot.1 < row) :
    ∃ cause, s.lookupIn listing t field v = .error (.codec cause) := by
  cases hlookup : s.lookupIn listing t field v with
  | error e =>
    rw [lookupIn_eq htype hc] at hlookup
    obtain ⟨cause, rfl⟩ := codec_of_scan hlookup
    exact ⟨cause, rfl⟩
  | ok found =>
    have hmatch := isLowestMatch_of_lookupIn hs htype hc hlisting hlookup
    rw [lookupIn_eq htype hc, scan_eq_ok] at hlookup
    have hany := hlookup.1.any_lt hlookup.2 (hlisting.mem_iff.mpr hslot) hu
    cases found with
    | none => cases hany
    | some row =>
      have hlt : row < slot.1 := by simpa using hany
      exact absurd hlt (Nat.lt_asymm (hbelow row hmatch.1))

/-- A value that was just written is a match, so the lowest one is not above it. -/
theorem Access.lookupIn_write {row : Row} (h : s.Access t field row) (hfits : t.Fits v)
    (hself : t.equals v v = true)
    (hencoded : (Change.apply s (.write field row (t.encode v))).Encoded FieldType.Fits field) :
    let u := Change.apply s (.write field row (t.encode v))
    ∃ column, u.column field = .ok column ∧
      ∀ listing : Column → List (Row × Bytes), (listing column).Perm column.toList →
        ∃ lowest, u.lookupIn listing t field v = .ok (some lowest) ∧ lowest ≤ row := by
  intro u
  have hu := h.write (t.encode v)
  have hc := column_of_lt hu.index_lt
  refine ⟨_, hc, fun listing hlisting => ?_⟩
  have hwritten : u.Matches t field v row :=
    (matches_iff hu.wellFormed hu.type row).mpr
      ⟨_, h.slot_write_self _, v, FieldType.decode_encode hfits, hself⟩
  have hread := not_undecodable_of_readable hc (hencoded.readable hu.type)
  obtain ⟨found, hfound⟩ := lookupIn_of_readable hu.type hc hlisting hread
  have hlowest := isLowestMatch_of_lookupIn hu.wellFormed hu.type hc hlisting hfound
  cases found with
  | none => exact absurd hwritten (hlowest row)
  | some lowest => exact ⟨lowest, hfound, hlowest.2 row hwritten⟩

end Matches

/-- After any run and in any order of the slots, a lookup that comes through answers the lowest
match. It comes through if all slots can be read, and does not if one that cannot is below every
match. Where nothing was written raw, a value that equals itself is found once it is written. Equality is
numeric for floats, and that of values for types without them. -/
theorem lookup_lowest (config : Config) (es : List Edit) {t : FieldType} {field : FieldId}
    (hd : ∃ d, ((withConfig config).run es).describeField field = .ok d ∧ d.type = t)
    (v : t.Value) :
    let s := (withConfig config).run es
    (∃ column, s.column field = .ok column ∧
      ∀ listing : Column → List (Row × Bytes), (listing column).Perm column.toList →
        (∀ found, s.lookupIn listing t field v = .ok found → s.IsLowestMatch t field v found) ∧
        ((∀ slot ∈ column.toList, ¬ t.Undecodable slot.2) →
          ∃ found, s.lookupIn listing t field v = .ok found) ∧
        ∀ slot ∈ column.toList, t.Undecodable slot.2 →
          (∀ row, s.Matches t field v row → slot.1 < row) →
          ∃ cause, s.lookupIn listing t field v = .error (.codec cause)) ∧
    ((∀ row bytes, Edit.setRaw field row bytes ∉ es) →
      (∀ t' row w, Edit.setValue t' field row w ∈ es → t'.Fits w) →
      t.Fits v → t.equals v v = true → ∀ row, s.isLive row = true →
        ∃ u column, setValue t field row v s = .ok () u ∧ u.column field = .ok column ∧
          ∀ listing : Column → List (Row × Bytes), (listing column).Perm column.toList →
            ∃ lowest, u.lookupIn listing t field v = .ok (some lowest) ∧ lowest ≤ row) ∧
    NumericEquality Binary64.isNaN Binary64.magnitude (FieldType.equals .binary64) ∧
    NumericEquality Binary32.isNaN Binary32.magnitude (FieldType.equals .binary32) ∧
    ∀ t' : FieldType, t'.FloatFree → ∀ a b : t'.Value, t'.equals a b = true ↔ a = b := by
  intro s
  have hnew : (withConfig config).WellFormed := wellFormed_withConfig config
  have hs : s.WellFormed := hnew.run es
  have htype : s.checkType t field = .ok () := (checkType_eq_ok ..).mpr hd
  refine ⟨?_, ?_, Binary64.numericEquality, Binary32.numericEquality,
    fun _ => FieldType.equals_iff⟩
  · have hc := column_of_lt (hs.index_lt_of_checkType htype)
    refine ⟨_, hc, fun listing hlisting => ⟨fun found => ?_, ?_, fun slot hslot hu hbelow => ?_⟩⟩
    · exact isLowestMatch_of_lookupIn hs htype hc hlisting
    · exact lookupIn_of_readable htype hc hlisting
    · exact lookupIn_of_undecodable hs htype hc hlisting hslot hu hbelow
  · intro hraw hes hfits hself row hlive
    have haccess : s.Access t field row := ⟨hs, hlive, htype⟩
    have hold : s.Encoded FieldType.Fits field := by
      refine (encoded_withConfig config).run hnew fun e he => ⟨?_, ?_⟩
      · rintro r bytes rfl
        exact hraw r bytes he
      · rintro t' r w rfl
        exact hes t' r w he
    have hset := haccess.setValue_eq v
    have hafter : (Edit.setValue t field row v).after s =
        Change.apply s (.write field row (t.encode v)) := by
      simp only [Edit.after, Edit.perform, hset]
    have hencoded :
        (Change.apply s (.write field row (t.encode v))).Encoded FieldType.Fits field := by
      rw [← hafter]
      refine hold.after hs ⟨?_, ?_⟩
      · rintro r bytes ⟨⟩
      · rintro t' r w ⟨⟩
        exact hfits
    obtain ⟨column, hc, hlookup⟩ := haccess.lookupIn_write hfits hself hencoded
    exact ⟨_, column, hset, hc, hlookup⟩

/-- A NaN at row 1, and the two zeros at rows 2 and 3. -/
theorem lookup_lowest_zeros :
    let nan : Binary64 := ⟨0x7ff8000000000000⟩
    let negativeZero : Binary64 := ⟨0x8000000000000000⟩
    let zero : Binary64 := ⟨0⟩
    let s := (withConfig { initialRowCapacity := 0 }).run
      [.createRow, .createRow, .createRow, .register { name := "score", type := .binary64 },
        .setValue .binary64 ⟨0⟩ ⟨1⟩ nan, .setValue .binary64 ⟨0⟩ ⟨2⟩ negativeZero,
        .setValue .binary64 ⟨0⟩ ⟨3⟩ zero]
    s.describeField ⟨0⟩ = .ok { name := "score", type := .binary64 } ∧
      s.IsLowestMatch .binary64 ⟨0⟩ zero (some ⟨2⟩) ∧
      ∃ u column, setValue .binary64 ⟨0⟩ ⟨1⟩ zero s = .ok () u ∧ u.column ⟨0⟩ = .ok column ∧
        ∀ listing : Column → List (Row × Bytes), (listing column).Perm column.toList →
          ∃ lowest, u.lookupIn listing .binary64 ⟨0⟩ zero = .ok (some lowest) ∧ lowest ≤ ⟨1⟩ := by
  intro nan negativeZero zero s
  have hd : s.describeField ⟨0⟩ = .ok { name := "score", type := .binary64 } := by
    decide +kernel
  have hlookup : s.lookup .binary64 ⟨0⟩ zero = .ok (some ⟨2⟩) := by decide +kernel
  obtain ⟨⟨column, hc, hlookups⟩, hset, -⟩ := lookup_lowest _ _ ⟨_, hd, rfl⟩ zero
  refine ⟨hd, (hlookups _ (List.reverse_perm _)).1 _ hlookup, ?_⟩
  refine hset ?_ ?_ trivial (by decide) ⟨1⟩ (by decide +kernel)
  · simp
  · intro t row w hw
    simp only [List.mem_cons, reduceCtorEq, false_or, List.not_mem_nil, or_false] at hw
    rcases hw with hw | hw | hw <;> cases hw <;> trivial

end Store
end TrackStore
