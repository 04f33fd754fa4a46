import TrackStore.Proofs.Counts.Slots
import TrackStore.Proofs.ListedFields
import TrackStore.Proofs.Schemas

/-! # Tracks that are stripped

Stripping a track and listing what is missing there go over the same fields at the same rows. No
field is listed twice in a container, and no frame is its own track or comes twice, so these are
different slots, and each is either missing or counted when it is emptied.
-/
namespace TrackStore

namespace Schema

/-- Every declared field of a track and of its frames, those of the track first and then frame by
frame. -/
def declared (schema : Schema) (s : Store) (track : Row) : List MissingField :=
  schema.track.map (.ofRef .track track) ++
    (s.framesOf track).flatMap fun frame => schema.frame.map (.ofRef .frame frame)

end Schema

/-- The slot that a declared field has at its row. -/
def MissingField.slot (m : MissingField) : FieldId × Row := (m.field, m.row)

namespace Schema

variable {s t : Store} {schema : Schema} {track : Row}

theorem length_declared (schema : Schema) (s : Store) (track : Row) :
    (schema.declared s track).length =
      schema.track.length + (s.framesOf track).length * schema.frame.length := by
  simp only [declared, List.length_append, List.length_flatMap, List.length_map, List.map_const',
    List.sum_replicate_nat]

theorem missing_eq_filter (schema : Schema) (s : Store) (track : Row) :
    schema.missing s track =
      (schema.declared s track).filter fun m => (s.slot m.field m.row).isNone := by
  simp [missing, declared, absent, List.filter_append, List.filter_flatMap, List.filter_map,
    MissingField.ofRef, Function.comp_def]

theorem map_slot_declared (schema : Schema) (s : Store) (track : Row) :
    (schema.declared s track).map MissingField.slot =
      schema.track.map (fun r => (r.field, track)) ++
        (s.framesOf track).flatMap fun frame => schema.frame.map fun r => (r.field, frame) := by
  simp [declared, List.map_flatMap, Function.comp_def, MissingField.slot, MissingField.ofRef]

theorem mem_map_slot {refs : List FieldRef} {field : FieldId} {row other : Row} :
    (field, row) ∈ refs.map (fun r => (r.field, other)) ↔
      row = other ∧ lists refs field = true := by
  simp only [lists_eq_true, List.mem_map, Prod.mk.injEq]
  constructor
  · rintro ⟨r, hr, hfield, hrow⟩
    exact ⟨hrow.symm, r, hr, hfield⟩
  · rintro ⟨hrow, r, hr, hfield⟩
    exact ⟨r, hr, hfield, hrow.symm⟩

theorem mem_map_slot_declared {field : FieldId} {row : Row} :
    (field, row) ∈ (schema.declared s track).map MissingField.slot ↔
      row = track ∧ lists schema.track field = true ∨
        row ∈ s.framesOf track ∧ lists schema.frame field = true := by
  simp only [map_slot_declared, List.mem_append, List.mem_flatMap, mem_map_slot]
  refine or_congr_right ⟨?_, fun ⟨hrow, hlists⟩ => ⟨row, hrow, rfl, hlists⟩⟩
  rintro ⟨frame, hframe, rfl, hlists⟩
  exact ⟨hframe, hlists⟩

/-- No two declared fields of a track have one slot. -/
theorem nodup_map_slot_declared (hs : s.Membership) (hschema : schema.Made) (track : Row) :
    ((schema.declared s track).map MissingField.slot).Nodup := by
  have hrow (refs : List FieldRef) (hrefs : (refs.map (·.field)).Nodup) (row : Row) :
      (refs.map fun r => (r.field, row)).Nodup := by
    have hpairs := hrefs.map (f := fun field => (field, row)) fun a b h => congrArg Prod.fst h
    rwa [List.map_map] at hpairs
  rw [map_slot_declared, List.nodup_append, List.nodup_flatMap]
  refine ⟨hrow _ (hschema.nodup .track) track,
    ⟨fun frame _ => hrow _ (hschema.nodup .frame) frame, ?_⟩, ?_⟩
  · refine (hs.nodup track).imp fun hne ⟨field, row⟩ h h' => ?_
    exact hne ((mem_map_slot.mp h).1.symm.trans (mem_map_slot.mp h').1)
  · rintro ⟨field, row⟩ h _ h' rfl
    obtain ⟨frame, hframe, h'⟩ := List.mem_flatMap.mp h'
    have hsame : track = frame := (mem_map_slot.mp h).1.symm.trans (mem_map_slot.mp h').1
    exact hs.not_mem_framesOf track (hsame ▸ hframe)

end Schema

namespace Store

/-- The second store is the first with some slots emptied, `n` of which held a value. -/
structure Emptied (s : Store) (slots : List (FieldId × Row)) (n : Nat) (t : Store) : Prop where
  tables : SameTables s t
  slot : ∀ field row, t.slot field row = if (field, row) ∈ slots then none else s.slot field row
  total : t.stats.slots + n = s.stats.slots
  held : slots.Nodup → n = slots.countP fun x => (s.slot x.1 x.2).isSome

variable {s t u : Store}

namespace Emptied

theorem refl (s : Store) : s.Emptied [] 0 s := ⟨.refl s, fun _ _ => rfl, rfl, fun _ => rfl⟩

theorem trans {slots others : List (FieldId × Row)} {n m : Nat} (h : s.Emptied slots n t)
    (h' : t.Emptied others m u) : s.Emptied (slots ++ others) (n + m) u where
  tables := h.tables.trans h'.tables
  slot field row := by
    rw [h'.slot, h.slot]
    by_cases hs : (field, row) ∈ slots <;> by_cases ho : (field, row) ∈ others <;> simp [hs, ho]
  total := by
    rw [← h.total, ← h'.total]
    omega
  held hnodup := by
    rw [List.nodup_append] at hnodup
    obtain ⟨hslots, hothers, hdisjoint⟩ := hnodup
    rw [List.countP_append, h.held hslots, h'.held hothers]
    -- What the others hold is not touched by the first part.
    have hkept : others.countP (fun x => (t.slot x.1 x.2).isSome) =
        others.countP fun x => (s.slot x.1 x.2).isSome := by
      refine List.countP_congr fun x hx => ?_
      have hnot : (x.1, x.2) ∉ slots := fun hmem => hdisjoint x hmem x hx rfl
      rw [h.slot, if_neg hnot]
    rw [hkept]

theorem clear {field : FieldId} (hf : field.index < s.columns.size) (row : Row) :
    s.Emptied [(field, row)] (s.slot field row).isSome.toNat
      (s.modifyColumn field (·.erase row)) where
  tables := .modifyColumn ..
  slot other row' := by
    rw [slot_clear]
    simp
  total := slots_clear hf row
  held _ := by cases h : (s.slot field row).isSome <;> simp [h]

end Emptied

theorem removeAt_of_live {field : FieldId} {row : Row} (hlive : s.isLive row = true)
    (hf : field.index < s.columns.size) :
    ∃ t, removeAt field row s = .ok (s.slot field row).isSome t ∧
      s.Emptied [(field, row)] (s.slot field row).isSome.toNat t := by
  refine ⟨_, ?_, .clear hf row⟩
  rw [removeAt_apply, hasValue_of_live hlive hf]

end Store

namespace Schema
open Store

variable {s : Store}

theorem removeAll_of_live {refs : List FieldRef} {row : Row} (hlive : s.isLive row = true)
    (hf : ∀ r ∈ refs, r.field.index < s.columns.size) :
    ∃ n t, removeAll refs row s = .ok n t ∧ s.Emptied (refs.map fun r => (r.field, row)) n t := by
  induction refs generalizing s with
  | nil => exact ⟨0, s, rfl, .refl s⟩
  | cons r refs ih =>
    obtain ⟨hr, hrefs⟩ := List.forall_mem_cons.mp hf
    obtain ⟨u, hremove, hfirst⟩ := removeAt_of_live hlive hr
    rw [← hfirst.tables.isLive] at hlive
    obtain ⟨n, t, hothers, hrest⟩ := ih hlive (by rwa [hfirst.tables.columns])
    refine ⟨_, t, ?_, hfirst.trans hrest⟩
    simp only [removeAll, FieldRef.removeAt, bind, EStateM.bind, hremove, hothers]
    cases (s.slot r.field row).isSome <;> simp [pure, EStateM.pure, Nat.add_comm]

theorem stripFrames_of_live (schema : Schema) {frames : List Row}
    (hlive : ∀ frame ∈ frames, s.isLive frame = true)
    (hf : ∀ r ∈ schema.frame, r.field.index < s.columns.size) :
    ∃ n t, schema.stripFrames frames s = .ok n t ∧
      s.Emptied (frames.flatMap fun frame => schema.frame.map fun r => (r.field, frame)) n t := by
  induction frames generalizing s with
  | nil => exact ⟨0, s, rfl, .refl s⟩
  | cons frame frames ih =>
    obtain ⟨hframe, hframes⟩ := List.forall_mem_cons.mp hlive
    obtain ⟨n, u, hremove, hfirst⟩ := removeAll_of_live hframe hf
    simp only [← hfirst.tables.isLive] at hframes
    obtain ⟨m, t, hothers, hrest⟩ := ih hframes (by rwa [hfirst.tables.columns])
    refine ⟨n + m, t, ?_, hfirst.trans hrest⟩
    simp only [stripFrames, bind, EStateM.bind, hremove, hothers]
    rfl

theorem stripTrack_of_live (schema : Schema) {track : Row} (hlive : s.isLive track = true)
    (hframes : ∀ frame ∈ s.framesOf track, s.isLive frame = true)
    (hf : ∀ r ∈ schema.track ++ schema.frame, r.field.index < s.columns.size) :
    ∃ n t, schema.stripTrack track s = .ok n t ∧
      s.Emptied ((schema.declared s track).map MissingField.slot) n t := by
  rw [List.forall_mem_append] at hf
  obtain ⟨n, u, hremove, hfirst⟩ := removeAll_of_live hlive hf.1
  have htables := hfirst.tables
  have hlist : u.framesAt track = .ok (s.framesOf track) :=
    (framesAt_eq_ok ..).mpr ⟨htables.isLive track ▸ hlive, htables.framesOf track⟩
  simp only [← htables.isLive] at hframes
  obtain ⟨m, t, hstrip, hrest⟩ :=
    schema.stripFrames_of_live hframes (by rw [htables.columns]; exact hf.2)
  refine ⟨n + m, t, ?_, ?_⟩
  · simp only [stripTrack, bind, EStateM.bind, hremove, query_apply, hlist, hstrip]
    rfl
  · rw [map_slot_declared]
    exact hfirst.trans hrest

/-- What stripping a track did, next to what was missing before and what is missing after. -/
structure Strips (schema : Schema) (s : Store) (track : Row) (missing : List MissingField)
    (removed : Nat) (t : Store) : Prop where
  missing_before : schema.missingFields s track = .ok missing
  missing_eq : missing =
    (schema.declared s track).filter fun m => s.hasValue m.field m.row = .ok false
  nodup : (missing.map MissingField.slot).Nodup
  strip : schema.stripTrack track s = .ok removed t
  removed_add : removed + missing.length =
    schema.track.length + (s.framesOf track).length * schema.frame.length
  slots_add : t.stats.slots + removed = s.stats.slots
  missing_after : schema.missingFields t track = .ok (schema.declared s track)
  length_after : (schema.declared s track).length =
    schema.track.length + (s.framesOf track).length * schema.frame.length
  strip_again : schema.stripTrack track t = .ok 0 t
  tables : SameTables s t
  /-- A field that is declared for tracks only stays on the frames, and the other way round. -/
  slot : ∀ field row, t.slot field row =
    if row = track ∧ lists schema.track field = true ∨
      row ∈ s.framesOf track ∧ lists schema.frame field = true then none else s.slot field row

section Strips
variable {schema : Schema} {track : Row}

theorem declared_congr {t : Store} (h : SameTables s t) :
    schema.declared t track = schema.declared s track := by
  rw [declared, declared, h.framesOf]

theorem hasValue_of_mem_declared (hlive : s.isLive track = true)
    (hframes : ∀ frame ∈ s.framesOf track, s.isLive frame = true)
    (hf : ∀ r ∈ schema.track ++ schema.frame, r.field.index < s.columns.size) {m : MissingField}
    (hm : m ∈ schema.declared s track) :
    s.hasValue m.field m.row = .ok (s.slot m.field m.row).isSome := by
  rw [List.forall_mem_append] at hf
  rcases List.mem_append.mp hm with hm | hm
  · obtain ⟨r, hr, rfl⟩ := List.mem_map.mp hm
    exact hasValue_of_live hlive (hf.1 r hr)
  · obtain ⟨frame, hframe, hm⟩ := List.mem_flatMap.mp hm
    obtain ⟨r, hr, rfl⟩ := List.mem_map.mp hm
    exact hasValue_of_live (hframes frame hframe) (hf.2 r hr)

/-- Nothing is left to remove where every declared slot is empty. -/
theorem stripTrack_of_empty (hlive : s.isLive track = true)
    (hframes : ∀ frame ∈ s.framesOf track, s.isLive frame = true)
    (hf : ∀ r ∈ schema.track ++ schema.frame, r.field.index < s.columns.size)
    (hnodup : ((schema.declared s track).map MissingField.slot).Nodup)
    (hempty : ∀ m ∈ schema.declared s track, s.slot m.field m.row = none) :
    schema.stripTrack track s = .ok 0 s := by
  obtain ⟨n, t, hstrip, hemptied⟩ := schema.stripTrack_of_live hlive hframes hf
  have hn : n = 0 := by
    rw [hemptied.held hnodup, List.countP_map, List.countP_eq_zero]
    intro m hm
    simp [MissingField.slot, hempty m hm]
  have ht : t = s := by
    refine hemptied.tables.eq_of_slots fun field row => ?_
    rw [hemptied.slot]
    split
    next hmem =>
      obtain ⟨m, hm, hslot⟩ := List.mem_map.mp hmem
      cases hslot
      exact (hempty m hm).symm
    next => rfl
  rw [hstrip, hn, ht]

/-- Of the declared slots of a live track each is either missing or held and removed, so that all
are missing at the end. Nothing else changes. -/
theorem stripTrack_strips (hs : s.Reachable) (hschema : schema.Made)
    (hfields : ∀ container, ∀ r ∈ schema.fields container, s.registry.contains r.field = true)
    (hlive : s.isLive track = true) :
    ∃ missing removed t, schema.Strips s track missing removed t := by
  have hwell := hs.wellFormed
  have hframes : ∀ frame ∈ s.framesOf track, s.isLive frame = true :=
    fun _ => hwell.membership.frame_live
  have hf : ∀ r ∈ schema.track ++ schema.frame, r.field.index < s.columns.size := by
    refine List.forall_mem_append.mpr ⟨fun r hr => ?_, fun r hr => ?_⟩
    · exact hwell.index_lt (hfields .track r hr)
    · exact hwell.index_lt (hfields .frame r hr)
  have hnodup := nodup_map_slot_declared hwell.membership hschema track
  obtain ⟨n, t, hstrip, hemptied⟩ := schema.stripTrack_of_live hlive hframes hf
  have htables := hemptied.tables
  -- After the strip the same holds of the rows and the fields, and every declared slot is empty.
  have hdeclared : schema.declared t track = schema.declared s track := declared_congr htables
  have hlive' : t.isLive track = true := by rw [htables.isLive, hlive]
  have hframes' : ∀ frame ∈ t.framesOf track, t.isLive frame = true := by
    simpa only [htables.framesOf, htables.isLive] using hframes
  have hf' : ∀ r ∈ schema.track ++ schema.frame, r.field.index < t.columns.size := by
    rwa [htables.columns]
  have hempty : ∀ m ∈ schema.declared t track, t.slot m.field m.row = none := by
    intro m hm
    rw [hdeclared] at hm
    exact (hemptied.slot ..).trans (if_pos (List.mem_map_of_mem hm))
  have hmissing := schema.missing_eq_filter s track
  refine ⟨schema.missing s track, n, t, ?_⟩
  constructor
  case missing_before => exact schema.missingFields_of_live hlive hframes hf
  case missing_eq =>
    rw [hmissing]
    refine List.filter_congr fun m hm => ?_
    rw [hasValue_of_mem_declared hlive hframes hf hm]
    cases s.slot m.field m.row <;> rfl
  case nodup =>
    rw [hmissing]
    exact hnodup.sublist (List.filter_sublist.map _)
  case strip => exact hstrip
  case removed_add =>
    have hheld : n = (schema.declared s track).countP fun m => (s.slot m.field m.row).isSome := by
      rw [hemptied.held hnodup, List.countP_map]
      rfl
    have hsplit := List.length_eq_countP_add_countP
      (fun m : MissingField => (s.slot m.field m.row).isSome) (l := schema.declared s track)
    rw [← length_declared, hsplit, hheld, hmissing, ← List.countP_eq_length_filter]
    exact congrArg _ (List.countP_congr fun m _ => by simp)
  case slots_add => exact hemptied.total
  case missing_after =>
    rw [schema.missingFields_of_live hlive' hframes' hf', schema.missing_eq_filter, ← hdeclared,
      List.filter_eq_self.mpr fun m hm => by rw [hempty m hm]; rfl]
  case length_after => exact schema.length_declared s track
  case strip_again =>
    exact stripTrack_of_empty hlive' hframes' hf' (hdeclared ▸ hnodup) hempty
  case tables => exact htables
  case slot =>
    intro field row
    rw [hemptied.slot]
    exact if_congr mem_map_slot_declared rfl rfl

end Strips

/-- The field that both containers declare is declared twice for frames and listed once. -/
theorem stripTrack_strips_shared :
    let s := (withConfig { initialRowCapacity := 0 }).run
      [.register { name := "label", type := .text }, .register { name := "flag", type := .bool },
        .createRow, .createRow, .createRow, .addFrame ⟨1⟩ ⟨3⟩, .addFrame ⟨1⟩ ⟨2⟩,
        .setRaw ⟨0⟩ ⟨1⟩ [104], .setRaw ⟨0⟩ ⟨2⟩ [105], .setRaw ⟨1⟩ ⟨3⟩ [1]]
    let schema : Schema :=
      { name := "boxes", host := ⟨0⟩, track := [⟨⟨0⟩, "label", .text⟩, ⟨⟨1⟩, "flag", .bool⟩],
        frame := [⟨⟨1⟩, "flag", .bool⟩] }
    schema.Made ∧ s.framesOf ⟨1⟩ = [⟨3⟩, ⟨2⟩] ∧ s.slot ⟨0⟩ ⟨2⟩ ≠ none ∧
      ∃ missing removed t, schema.Strips s ⟨1⟩ missing removed t := by
  intro s schema
  have hs : s.Reachable := ⟨_, _, rfl⟩
  have hmake : (SchemaKind.custom "boxes" [.plain .track "label" .text, .plain .track "flag" .bool,
      .plain .frame "flag" .bool, .plain .frame "flag" .bool]).make
        ⟨withConfig { initialRowCapacity := 0 }, .empty⟩ = .ok (.custom _ schema) _ := rfl
  have hmade : schema.Made := SchemaKind.made hmake
  have hfields (container : Container) :
      ∀ r ∈ schema.fields container, s.registry.contains r.field = true := by
    cases container <;> decide +kernel
  have hlive : s.isLive ⟨1⟩ = true := by decide +kernel
  exact ⟨hmade, by decide +kernel, by decide +kernel, stripTrack_strips hs hmade hfields hlive⟩

end Schema
end TrackStore
