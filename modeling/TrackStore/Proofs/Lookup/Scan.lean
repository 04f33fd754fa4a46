import Mathlib.Data.List.Induction
import TrackStore.Proofs.Typed

/-! # Scans of slots

A scan passes over the slots above a row already found, so whether it meets a slot that cannot be
read depends on what it met before. It comes through exactly if every such slot comes behind a lower
row with the value, and then it answers the lowest row with the value.
-/
namespace TrackStore

namespace FieldType
variable (t : FieldType)

/-- The bytes begin with a value that equals the one looked for. -/
def Holds (v : t.Value) (bytes : Bytes) : Prop := ∃ w, t.decode bytes = .ok w ∧ t.equals w v = true

/-- The bytes begin with another value. -/
def Differs (v : t.Value) (bytes : Bytes) : Prop :=
  ∃ w, t.decode bytes = .ok w ∧ t.equals w v = false

def Undecodable (bytes : Bytes) : Prop := ∃ e, t.decode bytes = .error e

theorem holds_or_differs_or_undecodable (v : t.Value) (bytes : Bytes) :
    t.Holds v bytes ∨ t.Differs v bytes ∨ t.Undecodable bytes := by
  unfold Holds Differs Undecodable
  cases t.decode bytes with
  | error e => simp
  | ok w => cases h : t.equals w v <;> simp [h]

variable {t}

theorem Holds.not_differs {v : t.Value} {bytes : Bytes} (h : t.Holds v bytes) :
    ¬ t.Differs v bytes := by
  rintro ⟨w, hw, hne⟩
  obtain ⟨w', hw', heq⟩ := h
  cases hw.symm.trans hw'
  simp [heq] at hne

theorem Holds.not_undecodable {v : t.Value} {bytes : Bytes} (h : t.Holds v bytes) :
    ¬ t.Undecodable bytes := by
  rintro ⟨e, he⟩
  obtain ⟨w, hw, -⟩ := h
  simp [he] at hw

theorem Differs.not_undecodable {v : t.Value} {bytes : Bytes} (h : t.Differs v bytes) :
    ¬ t.Undecodable bytes := by
  rintro ⟨e, he⟩
  obtain ⟨w, hw, -⟩ := h
  simp [he] at hw

end FieldType

namespace Store

section Scan
variable {t : FieldType} {v : t.Value} {slots : List (Row × Bytes)}

/-- The lowest row with the value, if there is one. -/
def IsLowest (t : FieldType) (v : t.Value) (slots : List (Row × Bytes)) : Option Row → Prop
  | none => ∀ slot ∈ slots, ¬ t.Holds v slot.2
  | some row => (∃ bytes, (row, bytes) ∈ slots ∧ t.Holds v bytes) ∧
    ∀ slot ∈ slots, t.Holds v slot.2 → row ≤ slot.1

/-- Every slot that cannot be read comes behind a lower row with the value. -/
def Shielded (t : FieldType) (v : t.Value) (slots : List (Row × Bytes)) : Prop :=
  ∀ before row bytes after, slots = before ++ (row, bytes) :: after → t.Undecodable bytes →
    ∃ lower ∈ before, t.Holds v lower.2 ∧ lower.1 < row

theorem scan_append (found : Option Row) (slots more : List (Row × Bytes)) :
    scan t v found (slots ++ more) = scan t v found slots >>= fun f => scan t v f more := by
  induction slots generalizing found with
  | nil => rfl
  | cons slot slots ih =>
    simp only [List.cons_append, scan]
    split
    · exact ih found
    · cases t.decodeSlot slot.2 with
      | error e => rfl
      | ok candidate => exact ih _

theorem shielded_concat (row : Row) (bytes : Bytes) :
    Shielded t v (slots ++ [(row, bytes)]) ↔ Shielded t v slots ∧
      (t.Undecodable bytes → ∃ lower ∈ slots, t.Holds v lower.2 ∧ lower.1 < row) := by
  constructor
  · intro h
    refine ⟨fun before r b after hs => ?_, h slots row bytes [] rfl⟩
    exact h before r b (after ++ [(row, bytes)]) (by simp [hs])
  · rintro ⟨hslots, hlast⟩ before r b after hs
    rcases List.eq_nil_or_concat after with rfl | ⟨after, last, rfl⟩
    · obtain ⟨rfl, hb⟩ := List.append_inj' hs rfl
      cases hb
      exact hlast
    · have hs' : slots ++ [(row, bytes)] = (before ++ (r, b) :: after) ++ [last] := by simp [hs]
      exact hslots before r b after (List.append_inj' hs' rfl).1

/-- The answer so far is below a row exactly if a lower row with the value was met. -/
theorem IsLowest.any_lt {found : Option Row} (h : IsLowest t v slots found) (row : Row) :
    found.any (· < row) = true ↔ ∃ lower ∈ slots, t.Holds v lower.2 ∧ lower.1 < row := by
  cases found with
  | none =>
    simp only [Option.any_none, Bool.false_eq_true, false_iff]
    rintro ⟨lower, hmem, hholds, -⟩
    exact h lower hmem hholds
  | some best =>
    simp only [Option.any_some, decide_eq_true_eq]
    constructor
    · intro hlt
      obtain ⟨bytes, hmem, hholds⟩ := h.1
      exact ⟨(best, bytes), hmem, hholds, hlt⟩
    · rintro ⟨lower, hmem, hholds, hlt⟩
      exact Nat.lt_of_le_of_lt (h.2 lower hmem hholds) hlt

theorem IsLowest.concat_of_not_holds {found : Option Row} (h : IsLowest t v slots found)
    {slot : Row × Bytes} (hslot : t.Holds v slot.2 → found.any (· < slot.1) = true) :
    IsLowest t v (slots ++ [slot]) found := by
  cases found with
  | none =>
    intro other hmem hholds
    rcases List.mem_append.mp hmem with hold | hnew
    · exact h other hold hholds
    · cases List.mem_singleton.mp hnew
      simpa using hslot hholds
  | some best =>
    obtain ⟨⟨bytes, hbest, hholds⟩, hle⟩ := h
    refine ⟨⟨bytes, List.mem_append_left _ hbest, hholds⟩, ?_⟩
    intro other hmem hother
    rcases List.mem_append.mp hmem with hold | hnew
    · exact hle other hold hother
    · cases List.mem_singleton.mp hnew
      have hlt : best < slot.1 := by simpa using hslot hother
      exact Nat.le_of_lt hlt

theorem IsLowest.concat_of_holds {found : Option Row} (h : IsLowest t v slots found) {row : Row}
    {bytes : Bytes} (hholds : t.Holds v bytes) (hlow : found.any (· < row) = false) :
    IsLowest t v (slots ++ [(row, bytes)]) (some row) := by
  refine ⟨⟨bytes, by simp, hholds⟩, ?_⟩
  intro other hmem hother
  rcases List.mem_append.mp hmem with hold | hnew
  · by_contra hlt
    have hany := (h.any_lt row).mpr ⟨other, hold, hother, Nat.lt_of_not_le hlt⟩
    simp [hlow] at hany
  · cases List.mem_singleton.mp hnew
    exact Nat.le_refl _

theorem decodeSlot_of_ok {bytes : Bytes} {w : t.Value} (h : t.decode bytes = .ok w) :
    t.decodeSlot bytes = .ok w := by
  simp [FieldType.decodeSlot, h, Except.mapError]

theorem decodeSlot_of_undecodable {bytes : Bytes} (h : t.Undecodable bytes) :
    ∃ e, t.decodeSlot bytes = .error (.codec e) := by
  obtain ⟨e, he⟩ := h
  exact ⟨e, by simp [FieldType.decodeSlot, he, Except.mapError]⟩

theorem exists_isLowest (v : t.Value) (slots : List (Row × Bytes)) :
    ∃ found, IsLowest t v slots found := by
  induction slots using List.reverseRecOn with
  | nil => exact ⟨none, by simp [IsLowest]⟩
  | append_singleton slots slot ih =>
    obtain ⟨found, h⟩ := ih
    by_cases hholds : t.Holds v slot.2
    · cases hlow : found.any (· < slot.1) with
      | true => exact ⟨found, h.concat_of_not_holds fun _ => hlow⟩
      | false => exact ⟨some slot.1, h.concat_of_holds hholds hlow⟩
    · exact ⟨found, h.concat_of_not_holds fun hh => absurd hh hholds⟩

theorem IsLowest.eq {a b : Option Row} (ha : IsLowest t v slots a) (hb : IsLowest t v slots b) :
    a = b := by
  cases a with
  | none =>
    cases b with
    | none => rfl
    | some b =>
      obtain ⟨⟨bytes, hmem, hholds⟩, -⟩ := hb
      exact absurd hholds (ha _ hmem)
  | some a =>
    obtain ⟨⟨bytes, hmem, hholds⟩, hle⟩ := ha
    cases b with
    | none => exact absurd hholds (hb _ hmem)
    | some b =>
      obtain ⟨⟨bytes', hmem', hholds'⟩, hle'⟩ := hb
      have hid : a.id = b.id := Nat.le_antisymm (hle _ hmem' hholds') (hle' _ hmem hholds)
      cases a; cases b; simp_all

/-- One more slot behind a scan that has come through. -/
theorem scan_last {found : Option Row} (h : IsLowest t v slots found) (row : Row) (bytes : Bytes)
    (result : Option Row) :
    scan t v found [(row, bytes)] = .ok result ↔
      (t.Undecodable bytes → ∃ lower ∈ slots, t.Holds v lower.2 ∧ lower.1 < row) ∧
        IsLowest t v (slots ++ [(row, bytes)]) result := by
  have answers {answer : Option Row} (hanswer : IsLowest t v (slots ++ [(row, bytes)]) answer) :
      (Except.ok answer : Except Error _) = .ok result ↔
        IsLowest t v (slots ++ [(row, bytes)]) result :=
    ⟨fun he => Except.ok.inj he ▸ hanswer, fun hr => congrArg _ (hanswer.eq hr)⟩
  by_cases hlow : found.any (· < row) = true
  · have hlast : scan t v found [(row, bytes)] = .ok found := by simp [scan, hlow]
    rw [hlast, answers (h.concat_of_not_holds fun _ => hlow)]
    exact (and_iff_right fun _ => (h.any_lt row).mp hlow).symm
  · rcases t.holds_or_differs_or_undecodable v bytes with hholds | hdiffers | hu
    · have hlast : scan t v found [(row, bytes)] = .ok (some row) := by
        obtain ⟨w, hw, heq⟩ := hholds
        simp [scan, hlow, decodeSlot_of_ok hw, heq, bind, Except.bind]
      rw [hlast, answers (h.concat_of_holds hholds (by simpa using hlow))]
      exact (and_iff_right fun hu => absurd hu hholds.not_undecodable).symm
    · have hlast : scan t v found [(row, bytes)] = .ok found := by
        obtain ⟨w, hw, hne⟩ := hdiffers
        simp [scan, hlow, decodeSlot_of_ok hw, hne, bind, Except.bind]
      rw [hlast, answers (h.concat_of_not_holds fun hh => absurd hdiffers hh.not_differs)]
      exact (and_iff_right fun hu => absurd hu hdiffers.not_undecodable).symm
    · obtain ⟨cause, hcause⟩ := decodeSlot_of_undecodable hu
      have hlast : scan t v found [(row, bytes)] = .error (.codec cause) := by
        simp [scan, hlow, hcause, bind, Except.bind]
      rw [hlast]
      constructor
      · intro he
        cases he
      · rintro ⟨hshield, -⟩
        exact absurd ((h.any_lt row).mpr (hshield hu)) hlow

/-- When a scan comes through, and what it answers then. -/
theorem scan_eq_ok (slots : List (Row × Bytes)) (result : Option Row) :
    scan t v none slots = .ok result ↔ Shielded t v slots ∧ IsLowest t v slots result := by
  induction slots using List.reverseRecOn generalizing result with
  | nil =>
    have hempty : Shielded t v [] := by
      intro before row bytes after hs
      simp at hs
    cases result <;> simp [scan, hempty, IsLowest]
  | append_singleton slots slot ih =>
    obtain ⟨row, bytes⟩ := slot
    rw [scan_append, shielded_concat]
    cases hscan : scan t v none slots with
    | error e =>
      -- A scan that was stopped was not shielded: it would have come to the lowest row.
      have hnot : ¬ Shielded t v slots := by
        intro hshield
        obtain ⟨found, hlowest⟩ := exists_isLowest v slots
        have hok := (ih found).mpr ⟨hshield, hlowest⟩
        rw [hscan] at hok
        cases hok
      simp only [bind, Except.bind, reduceCtorEq, false_iff]
      rintro ⟨⟨hshield, -⟩, -⟩
      exact hnot hshield
    | ok found =>
      obtain ⟨hshield, hlowest⟩ := (ih found).mp hscan
      show scan t v found [(row, bytes)] = .ok result ↔ _
      rw [scan_last hlowest, and_assoc]
      exact (and_iff_right hshield).symm

theorem codec_of_scan {found : Option Row} {e : Error} (h : scan t v found slots = .error e) :
    ∃ cause, e = .codec cause := by
  induction slots generalizing found with
  | nil => cases h
  | cons slot slots ih =>
    simp only [scan] at h
    split at h
    · exact ih h
    · rcases t.holds_or_differs_or_undecodable v slot.2 with ⟨w, hw, -⟩ | ⟨w, hw, -⟩ | hu
      · rw [decodeSlot_of_ok hw] at h
        exact ih h
      · rw [decodeSlot_of_ok hw] at h
        exact ih h
      · obtain ⟨cause, hcause⟩ := decodeSlot_of_undecodable hu
        rw [hcause] at h
        cases h
        exact ⟨cause, rfl⟩

end Scan

end Store
end TrackStore
