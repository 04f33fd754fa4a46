import TrackStore.Proofs.WellFormed
import TrackStore.Schema.Track

/-! # The listed fields of a row

What copying the listed fields does to the slots, and which of the listed fields are missing at a
row. Both ask no more than live rows and known fields.
-/
namespace TrackStore

namespace Store

variable {s : Store} {src dst : Row}

theorem copyValue_of_live {field : FieldId} (hsrc : s.isLive src = true)
    (hdst : s.isLive dst = true) (hf : field.index < s.columns.size) :
    ∃ t, copyValue field src dst s = .ok () t ∧ SameTables s t ∧
      ∀ other row, t.slot other row =
        if other = field ∧ row = dst then (s.slot field src).or (s.slot field dst)
        else s.slot other row := by
  have hcolumn := columnAt_of_live hdst hf
  have hslot := slot_of_column (column_of_lt hf) src
  simp only [copyValue_apply, (checkRow_eq_ok ..).mpr hsrc, hcolumn, hslot]
  cases s.columns[field.index][src]? with
  | none =>
    refine ⟨s, rfl, .refl s, fun other row => ?_⟩
    by_cases h : other = field ∧ row = dst
    · rw [if_pos h, h.1, h.2]
      rfl
    · rw [if_neg h]
  | some bytes =>
    refine ⟨_, rfl, .modifyColumn .., fun other row => ?_⟩
    rw [slot_write hf]
    rfl

theorem copyAll_of_live {refs : List FieldRef} (hne : src ≠ dst) (hsrc : s.isLive src = true)
    (hdst : s.isLive dst = true) (hf : ∀ r ∈ refs, r.field.index < s.columns.size) :
    ∃ t, Schema.copyAll refs src dst s = .ok () t ∧ SameTables s t ∧
      ∀ field row, t.slot field row =
        if Schema.lists refs field = true ∧ row = dst then
          (s.slot field src).or (s.slot field dst)
        else s.slot field row := by
  induction refs generalizing s with
  | nil => exact ⟨s, rfl, .refl s, by simp [Schema.lists]⟩
  | cons r refs ih =>
    obtain ⟨hr, hrefs⟩ := List.forall_mem_cons.mp hf
    obtain ⟨u, hcopy, htables, hslot⟩ := copyValue_of_live hsrc hdst hr
    rw [← htables.isLive] at hsrc hdst
    obtain ⟨t, hcopies, htables', hslot'⟩ := ih hsrc hdst (by rwa [htables.columns])
    have hrun : Schema.copyAll (r :: refs) src dst s = .ok () t := by
      simp only [Schema.copyAll, FieldRef.copyValue, bind, EStateM.bind, hcopy, hcopies]
    refine ⟨t, hrun, htables.trans htables', fun field row => ?_⟩
    by_cases hrow : row = dst
    · subst hrow
      have hsame : u.slot field src = s.slot field src := by simp [hslot, hne]
      rw [hslot', hsame, hslot]
      by_cases hfield : field = r.field
      · subst hfield
        -- A field that is listed again is copied again, to the same end.
        cases s.slot r.field src <;> simp [Schema.lists]
      · have hhead : (r.field == field) = false := beq_eq_false_iff_ne.mpr (Ne.symm hfield)
        simp [Schema.lists, hhead, hfield]
    · simp [hslot', hslot, hrow]

end Store

namespace Schema

variable {s : Store} {row : Row}

/-- The listed fields with an empty slot at the row. -/
def absent (refs : List FieldRef) (s : Store) (row : Row) : List FieldRef :=
  refs.filter fun r => (s.slot r.field row).isNone

/-- What is missing at a track and its frames, from the slots alone. -/
def missing (schema : Schema) (s : Store) (track : Row) : List MissingField :=
  (absent schema.track s track).map (.ofRef .track track) ++
    (s.framesOf track).flatMap fun frame =>
      (absent schema.frame s frame).map (.ofRef .frame frame)

theorem missingAt_of_live {refs : List FieldRef} (hlive : s.isLive row = true)
    (hf : ∀ r ∈ refs, r.field.index < s.columns.size) :
    missingAt refs s row = .ok (absent refs s row) := by
  induction refs with
  | nil => rfl
  | cons r refs ih =>
    obtain ⟨hr, hrefs⟩ := List.forall_mem_cons.mp hf
    simp only [missingAt, FieldRef.hasValueAt, Store.hasValue_of_live hlive hr, ih hrefs, bind,
      Except.bind, pure, Except.pure, absent, List.filter_cons]
    cases s.slot r.field row <;> rfl

theorem missingAtFrames_of_live (schema : Schema) {frames : List Row}
    (hlive : ∀ frame ∈ frames, s.isLive frame = true)
    (hf : ∀ r ∈ schema.frame, r.field.index < s.columns.size) :
    schema.missingAtFrames s frames =
      .ok (frames.flatMap fun frame =>
        (absent schema.frame s frame).map (.ofRef .frame frame)) := by
  induction frames with
  | nil => rfl
  | cons frame frames ih =>
    obtain ⟨hframe, hframes⟩ := List.forall_mem_cons.mp hlive
    simp only [missingAtFrames, missingAt_of_live hframe hf, ih hframes, bind, Except.bind, pure,
      Except.pure, List.flatMap_cons]

theorem missingFields_of_live (schema : Schema) {track : Row} (hlive : s.isLive track = true)
    (hframes : ∀ frame ∈ s.framesOf track, s.isLive frame = true)
    (hf : ∀ r ∈ schema.track ++ schema.frame, r.field.index < s.columns.size) :
    schema.missingFields s track = .ok (schema.missing s track) := by
  rw [List.forall_mem_append] at hf
  have hlist : s.framesAt track = .ok (s.framesOf track) :=
    (Store.framesAt_eq_ok ..).mpr ⟨hlive, rfl⟩
  have hrest := schema.missingAtFrames_of_live hframes hf.2
  simp only [missingFields, missingAt_of_live hlive hf.1, hlist, hrest, bind, Except.bind, pure,
    Except.pure, missing]

end Schema
end TrackStore
