import TrackStore.Proofs.Clone.Progress

/-! # Copies that fail

Under a schema of another store the copying of a track can meet a field that is not known here. It
stops there: the rows that it made stay, live and without a track, with the values that were copied
by then. What was there before is as it was.
-/
namespace TrackStore

namespace Store

/-- The first of the listed fields that is not known, and the known ones before it. -/
def FirstUnknown (s : Store) (refs known : List FieldRef) (r : FieldRef) : Prop :=
  (∃ rest, refs = known ++ r :: rest) ∧
    (∀ k ∈ known, s.registry.contains k.field = true) ∧ s.registry.contains r.field = false

/-- Where the copying of a track stops: with which error, which rows it was copying, and which
fields of each of them it had copied. -/
inductive Stops (schema : Schema) (s : Store) (src : Row) :
    Error → List (Row × List FieldRef) → Prop
  | stale : s.isLive src = false → Stops schema s src (.staleRow src) []
  | track {known r} : s.isLive src = true → s.FirstUnknown schema.track known r →
    Stops schema s src (.unknownField r.field) [(src, known)]
  | frame {frame frames known r} : s.isLive src = true →
    (∀ r ∈ schema.track, s.registry.contains r.field = true) →
    s.framesOf src = frame :: frames → s.FirstUnknown schema.frame known r →
    Stops schema s src (.unknownField r.field) [(src, schema.track), (frame, known)]

/-- What is there besides the old store: a new row for each row that was being copied, with the
copied fields, and no frames. -/
structure Leftover (s : Store) (copied : List (Row × List FieldRef)) (t : Store) : Prop where
  config : t.config = s.config
  registry : t.registry = s.registry
  columns : t.columns.size = s.columns.size
  next : t.rows.next = s.rows.next + copied.length
  live : ∀ row, t.isLive row = true ↔
    s.isLive row = true ∨ ∃ i < copied.length, row = ⟨s.rows.next + i⟩
  slot_new : ∀ i source refs, copied[i]? = some (source, refs) →
    ∀ field, t.slot field ⟨s.rows.next + i⟩ =
      if Schema.lists refs field = true then s.slot field source else none
  slot_other : ∀ row, (∀ i < copied.length, row ≠ ⟨s.rows.next + i⟩) →
    ∀ field, t.slot field row = s.slot field row
  frames : t.frames = s.frames
  owners : t.owners = s.owners

theorem exists_firstUnknown (s : Store) (refs : List FieldRef) :
    (∀ r ∈ refs, s.registry.contains r.field = true) ∨ ∃ known r, s.FirstUnknown refs known r := by
  induction refs with
  | nil => exact .inl fun _ hmem => nomatch hmem
  | cons head refs ih =>
    cases hhead : s.registry.contains head.field with
    | false => exact .inr ⟨[], head, ⟨refs, rfl⟩, (fun _ hmem => nomatch hmem), hhead⟩
    | true =>
      rcases ih with hall | ⟨known, r, ⟨rest, rfl⟩, hknown, hr⟩
      · exact .inl (List.forall_mem_cons.mpr ⟨hhead, hall⟩)
      · exact .inr ⟨head :: known, r, ⟨rest, rfl⟩, List.forall_mem_cons.mpr ⟨hhead, hknown⟩, hr⟩

section Copying
variable {s t u : Store} {src dst : Row} {known : List FieldRef} {r : FieldRef}

theorem column_of_le {field : FieldId} (h : s.columns.size ≤ field.index) :
    s.column field = .error (.unknownField field) := by
  simp only [column, Array.getElem?_eq_none h]

theorem WellFormed.le_of_unknown (hs : s.WellFormed) {field : FieldId}
    (h : s.registry.contains field = false) : s.columns.size ≤ field.index := by
  rw [hs.columns]
  exact Nat.le_of_not_lt (of_decide_eq_false h)

theorem copyAll_append (refs refs' : List FieldRef) (h : Schema.copyAll refs src dst s = .ok () t) :
    Schema.copyAll (refs ++ refs') src dst s = Schema.copyAll refs' src dst t := by
  induction refs generalizing s with
  | nil =>
    cases h
    rfl
  | cons head refs ih =>
    simp only [Schema.copyAll, List.cons_append, bind, EStateM.bind] at h ⊢
    cases hhead : head.copyValue src dst s with
    | error e v => simp [hhead] at h
    | ok _ v =>
      simp only [hhead] at h ⊢
      exact ih h

/-- Copying the listed fields stops at the first that has no column. -/
theorem copyAll_firstUnknown {refs : List FieldRef} (hfirst : s.FirstUnknown refs known r)
    (h : Schema.copyAll known src dst t = .ok () u) (hsrc : u.isLive src = true)
    (hdst : u.isLive dst = true) (hr : u.columns.size ≤ r.field.index) :
    Schema.copyAll refs src dst t = .error (.unknownField r.field) u := by
  obtain ⟨⟨rest, rfl⟩, -, -⟩ := hfirst
  have hstop : r.copyValue src dst u = .error (.unknownField r.field) u := by
    have hcolumn : u.columnAt r.field dst = .error (.unknownField r.field) := by
      simp [columnAt, (checkRow_eq_ok ..).mpr hdst, column_of_le hr, bind, Except.bind]
    simp only [FieldRef.copyValue, copyValue_apply, (checkRow_eq_ok ..).mpr hsrc, hcolumn]
  rw [copyAll_append _ _ h]
  simp only [Schema.copyAll, bind, EStateM.bind, hstop]

end Copying

section Leftover
variable {s t : Store} {copied : List (Row × List FieldRef)} {source : Row} {refs : List FieldRef}

theorem leftover_refl (s : Store) : Leftover s [] s where
  config := rfl
  registry := rfl
  columns := rfl
  next := rfl
  live row := by simp
  slot_new i source refs h := by simp at h
  slot_other row _ field := rfl
  frames := rfl
  owners := rfl

namespace Leftover

theorem next_row (h : Leftover s copied t) :
    t.rows.allocate.1 = ⟨s.rows.next + copied.length⟩ := by
  rw [← h.next]
  rfl

theorem live_source (h : Leftover s copied t) (hlive : s.isLive source = true) :
    t.isLive source = true :=
  (h.live source).mpr (.inl hlive)

/-- The next row has no part in anything yet. -/
theorem next_unused (h : Leftover s copied t) (hs : s.WellFormed) :
    t.isLive t.rows.allocate.1 = false ∧ ∀ field, t.slot field t.rows.allocate.1 = none := by
  have hold : s.isLive t.rows.allocate.1 = false :=
    hs.not_live_of_next_le (by rw [h.next_row]; exact Nat.le_add_right ..)
  have hne : ∀ i < copied.length, t.rows.allocate.1 ≠ ⟨s.rows.next + i⟩ := by
    intro i hi heq
    rw [h.next_row, Row.mk.injEq] at heq
    omega
  constructor
  · rw [Bool.eq_false_iff, ne_eq, h.live, hold]
    rintro (hfalse | ⟨i, hi, heq⟩)
    · cases hfalse
    · exact hne i hi heq
  · intro field
    rw [h.slot_other _ hne]
    exact hs.slot_of_not_live hold field

/-- A row that was live from the start holds what it held. -/
theorem slot_source (h : Leftover s copied t) (hs : s.WellFormed) (hlive : s.isLive source = true)
    (field : FieldId) : t.slot field source = s.slot field source := by
  refine h.slot_other source (fun i hi heq => ?_) field
  subst heq
  simp [hs.not_live_of_next_le (Nat.le_add_right ..)] at hlive

/-- One more row, with the known fields of its source. -/
theorem copy (h : Leftover s copied t) (hs : s.WellFormed) (hlive : s.isLive source = true)
    (hf : ∀ r ∈ refs, s.registry.contains r.field = true) :
    ∃ u, Schema.copyAll refs source t.rows.allocate.1 (Change.issue.apply t) = .ok () u ∧
      Leftover s (copied ++ [(source, refs)]) u := by
  have hindex : ∀ r ∈ refs, r.field.index < t.columns.size := by
    intro r hr
    rw [h.columns]
    exact hs.index_lt (hf r hr)
  obtain ⟨hdead, hempty⟩ := h.next_unused hs
  obtain ⟨u, hcopy, htables, hslot⟩ := copyAll_to_new (h.live_source hlive) hdead hempty hindex
  refine ⟨u, hcopy, ?_⟩
  have hrow (i : Nat) : (⟨s.rows.next + i⟩ : Row) = t.rows.allocate.1 ↔ i = copied.length := by
    rw [h.next_row, Row.mk.injEq]
    omega
  constructor
  case config => exact htables.config.trans h.config
  case registry => exact htables.registry.trans h.registry
  case columns => exact htables.columns.trans h.columns
  case next =>
    have hrows : u.rows.next = t.rows.next + 1 := congrArg RowAllocator.next htables.rows
    rw [hrows, h.next, List.length_append, List.length_singleton, Nat.add_assoc]
  case live =>
    intro row
    rw [htables.isLive, isLive_apply, Bool.or_eq_true, decide_eq_true_eq, h.live, h.next_row,
      or_assoc, List.length_append, List.length_singleton]
    refine or_congr_right ⟨?_, ?_⟩
    · rintro (⟨i, hi, rfl⟩ | rfl)
      · exact ⟨i, by omega, rfl⟩
      · exact ⟨copied.length, by omega, rfl⟩
    · rintro ⟨i, hi, rfl⟩
      rcases Nat.lt_succ_iff_lt_or_eq.mp hi with hlt | rfl
      · exact .inl ⟨i, hlt, rfl⟩
      · exact .inr rfl
  case slot_new =>
    intro i other others hi field
    rw [hslot]
    by_cases hlast : i = copied.length
    · subst hlast
      rw [List.getElem?_concat_length, Option.some.injEq, Prod.mk.injEq] at hi
      obtain ⟨rfl, rfl⟩ := hi
      rw [if_pos ((hrow _).mpr rfl), h.slot_source hs hlive]
    · rw [if_neg (mt (hrow i).mp hlast)]
      have hlt : i < copied.length := by
        obtain ⟨hlt, -⟩ := List.getElem?_eq_some_iff.mp hi
        rw [List.length_append, List.length_singleton] at hlt
        omega
      rw [List.getElem?_append_left hlt] at hi
      exact h.slot_new i other others hi field
  case slot_other =>
    intro row hother field
    rw [List.length_append, List.length_singleton] at hother
    rw [hslot, if_neg (h.next_row ▸ hother copied.length (by omega)),
      h.slot_other row fun i hi => hother i (by omega)]
  case frames => exact htables.frames.trans h.frames
  case owners => exact htables.owners.trans h.owners

/-- One more row, where copying stops at a field that is not known. -/
theorem copy_stops (h : Leftover s copied t) (hs : s.WellFormed) (hlive : s.isLive source = true)
    {known : List FieldRef} {r : FieldRef} (hfirst : s.FirstUnknown refs known r) :
    ∃ u, Schema.copyAll refs source t.rows.allocate.1 (Change.issue.apply t) =
        .error (.unknownField r.field) u ∧ Leftover s (copied ++ [(source, known)]) u := by
  obtain ⟨u, hcopy, hleft⟩ := h.copy hs hlive hfirst.2.1
  have hdst : u.isLive t.rows.allocate.1 = true := by
    refine (hleft.live _).mpr (.inr ⟨copied.length, ?_, h.next_row⟩)
    rw [List.length_append, List.length_singleton]
    omega
  have hunknown : u.columns.size ≤ r.field.index := by
    rw [hleft.columns]
    exact hs.le_of_unknown hfirst.2.2
  exact ⟨u, copyAll_firstUnknown hfirst hcopy (hleft.live_source hlive) hdst hunknown, hleft⟩

end Leftover

end Leftover

section Track
variable {schema : Schema} {s t u : Store} {src dst frame : Row} {frames : List Row}

theorem cloneTrack_apply (schema : Schema) (src : Row) (s : Store) :
    schema.cloneTrack src s = match s.framesAt src with
      | .error e => .error e s
      | .ok frames =>
        match schema.copyTrackFields src s.rows.allocate.1 (Change.issue.apply s) with
        | .error e t => .error e t
        | .ok _ t =>
          match schema.cloneFrames s.rows.allocate.1 frames t with
          | .error e u => .error e u
          | .ok _ u => .ok s.rows.allocate.1 u := by
  simp only [Schema.cloneTrack, bind, EStateM.bind, query_apply]
  cases s.framesAt src with
  | error e => rfl
  | ok frames =>
    simp only [createRow_eq]
    cases schema.copyTrackFields src s.rows.allocate.1 (Change.issue.apply s) with
    | error e t => rfl
    | ok _ t =>
      cases h : schema.cloneFrames s.rows.allocate.1 frames t with
      | error e u => simp only [h]
      | ok _ u => simp only [h, pure, EStateM.pure]

theorem cloneTrack_of_not_live (hdead : s.isLive src = false) :
    schema.cloneTrack src s = .error (.staleRow src) s := by
  have hlist : s.framesAt src = .error (.staleRow src) := by
    simp [framesAt, checkRow_of_not_live hdead, bind, Except.bind]
  simp only [cloneTrack_apply, hlist]

theorem cloneFrames_cons_error {e : Error}
    (h : schema.copyFrameFields frame t.rows.allocate.1 (Change.issue.apply t) = .error e u) :
    schema.cloneFrames dst (frame :: frames) t = .error e u := by
  simp only [Schema.cloneFrames, bind, EStateM.bind, createRow_eq, h]

/-- Where nothing is unknown that is asked for, the copying comes to its end. -/
theorem cloneTrack_completes (hs : s.WellFormed) (hlive : s.isLive src = true)
    (htrack : ∀ r ∈ schema.track, s.registry.contains r.field = true)
    (hframe : s.framesOf src = [] ∨ ∀ r ∈ schema.frame, s.registry.contains r.field = true) :
    ∃ copy t, schema.cloneTrack src s = .ok copy t := by
  have hlist : s.framesAt src = .ok (s.framesOf src) := (framesAt_eq_ok ..).mpr ⟨hlive, rfl⟩
  obtain ⟨t, hcopy, hsofar⟩ :=
    copiedSoFar_track hs hlive fun r hr => hs.index_lt (htrack r hr)
  have hall : ∃ u, schema.cloneFrames s.rows.allocate.1 (s.framesOf src) t = .ok () u := by
    rcases hframe with hnone | hframe
    · rw [hnone]
      exact ⟨t, rfl⟩
    · have hsplit : s.framesOf src = [] ++ s.framesOf src := rfl
      obtain ⟨u, hframes, -⟩ := hsofar.frames hs hsplit fun r hr => hs.index_lt (hframe r hr)
      rw [copyOf_self] at hframes
      exact ⟨u, hframes⟩
  obtain ⟨u, hframes⟩ := hall
  refine ⟨s.rows.allocate.1, u, ?_⟩
  simp only [cloneTrack_apply, hlist, hcopy, hframes]

/-- Where it stops, the copying fails and leaves the rows behind that it made. -/
theorem cloneTrack_stops (hs : s.WellFormed) {e : Error} {copied : List (Row × List FieldRef)}
    (h : Stops schema s src e copied) :
    ∃ t, schema.cloneTrack src s = .error e t ∧ Leftover s copied t := by
  cases h with
  | stale hdead => exact ⟨s, cloneTrack_of_not_live hdead, leftover_refl s⟩
  | track hlive hfirst =>
    have hlist : s.framesAt src = .ok (s.framesOf src) := (framesAt_eq_ok ..).mpr ⟨hlive, rfl⟩
    obtain ⟨t, hcopy, hleft⟩ := (leftover_refl s).copy_stops hs hlive hfirst
    exact ⟨t, by simp only [cloneTrack_apply, hlist, Schema.copyTrackFields, hcopy], hleft⟩
  | @frame frame frames known r hlive hknown hframes hfirst =>
    have hlist : s.framesAt src = .ok (frame :: frames) :=
      (framesAt_eq_ok ..).mpr ⟨hlive, hframes⟩
    have hframe : s.isLive frame = true :=
      hs.membership.frame_live (hframes ▸ List.mem_cons_self)
    obtain ⟨t, hcopy, hfirstrow⟩ := (leftover_refl s).copy hs hlive hknown
    obtain ⟨u, hstop, hleft⟩ := hfirstrow.copy_stops hs hframe hfirst
    have hframes : schema.cloneFrames s.rows.allocate.1 (frame :: frames) t =
        .error (.unknownField r.field) u := cloneFrames_cons_error hstop
    exact ⟨u, by simp only [cloneTrack_apply, hlist, Schema.copyTrackFields, hcopy, hframes], hleft⟩

theorem stops_or_completes (hs : s.WellFormed) (schema : Schema) (src : Row) :
    (∃ e copied, Stops schema s src e copied) ∨
      ∃ copy t, schema.cloneTrack src s = .ok copy t := by
  cases hlive : s.isLive src with
  | false => exact .inl ⟨_, _, .stale hlive⟩
  | true =>
    rcases s.exists_firstUnknown schema.track with htrack | ⟨known, r, hfirst⟩
    · cases hframes : s.framesOf src with
      | nil => exact .inr (cloneTrack_completes hs hlive htrack (.inl hframes))
      | cons frame frames =>
        rcases s.exists_firstUnknown schema.frame with hframe | ⟨known, r, hfirst⟩
        · exact .inr (cloneTrack_completes hs hlive htrack (.inr hframe))
        · exact .inl ⟨_, _, .frame hlive htrack hframes hfirst⟩
    · exact .inl ⟨_, _, .track hlive hfirst⟩

end Track

/-- A copying that stops at a live track has made the copy of it. -/
theorem Leftover.live_copy {schema : Schema} {s t : Store} {src : Row} {e : Error}
    {copied : List (Row × List FieldRef)} (h : Leftover s copied t)
    (hstops : Stops schema s src e copied) (hlive : s.isLive src = true) :
    t.isLive s.rows.allocate.1 = true := by
  refine (h.live _).mpr (.inr ⟨0, ?_, rfl⟩)
  cases hstops with
  | stale hdead => simp [hlive] at hdead
  | track => exact Nat.one_pos
  | frame => exact Nat.two_pos

/-- The copying of a track fails exactly where it stops. What was there before is as it was, but
only a track that is not live leaves no trace: of a live one the copy stays, and with it the copy of
the first frame if it was a field for frames that was not known. -/
theorem cloneTrack_leftover {s : Store} (hs : s.Reachable) (schema : Schema) (src : Row) :
    match schema.cloneTrack src s with
    | .ok _ _ => ∀ e copied, ¬ Stops schema s src e copied
    | .error e t => ∃ copied, Stops schema s src e copied ∧ Leftover s copied t ∧
        (s.isLive src = false ∧ t = s ∨
          s.isLive src = true ∧ s.isLive s.rows.allocate.1 = false ∧
            t.isLive s.rows.allocate.1 = true) := by
  have hw := hs.wellFormed
  rcases stops_or_completes hw schema src with ⟨e, copied, hstops⟩ | ⟨copy, t, hcopy⟩
  · obtain ⟨t, herror, hleft⟩ := cloneTrack_stops hw hstops
    rw [herror]
    refine ⟨copied, hstops, hleft, ?_⟩
    cases hlive : s.isLive src with
    | false =>
      rw [cloneTrack_of_not_live hlive] at herror
      cases herror
      exact .inl ⟨rfl, rfl⟩
    | true =>
      have hnew : s.isLive s.rows.allocate.1 = false := hw.not_live_of_next_le (Nat.le_refl _)
      exact .inr ⟨rfl, hnew, hleft.live_copy hstops hlive⟩
  · rw [hcopy]
    intro e copied hstops
    obtain ⟨u, herror, -⟩ := cloneTrack_stops hw hstops
    rw [hcopy] at herror
    cases herror

theorem cloneTrack_leftover_frame :
    let s := (withConfig {}).run
      [.createRow, .createRow, .register { name := "label", type := .text }, .addFrame ⟨1⟩ ⟨2⟩]
    let schema : Schema :=
      { name := "boxes", host := ⟨0⟩, track := [⟨⟨0⟩, "label", .text⟩],
        frame := [⟨⟨1⟩, "area", .binary64⟩] }
    ∃ t copied, schema.cloneTrack ⟨1⟩ s = .error (.unknownField ⟨1⟩) t ∧
      Stops schema s ⟨1⟩ (.unknownField ⟨1⟩) copied ∧ Leftover s copied t ∧
        s.isLive ⟨3⟩ = false ∧ t.isLive ⟨3⟩ = true := by
  intro s schema
  have hs : s.Reachable := ⟨_, _, rfl⟩
  have hlive : s.isLive ⟨1⟩ = true := by decide
  have hfirst : s.FirstUnknown schema.frame [] ⟨⟨1⟩, "area", .binary64⟩ :=
    ⟨⟨[], rfl⟩, by decide, by decide⟩
  have hframes : s.framesOf ⟨1⟩ = ⟨2⟩ :: [] := by decide
  have hstops := Stops.frame hlive (by decide) hframes hfirst
  obtain ⟨t, herror, -⟩ := cloneTrack_stops hs.wellFormed hstops
  have hleftover := cloneTrack_leftover hs schema ⟨1⟩
  rw [herror] at hleftover
  obtain ⟨copied, hstops, hleft, ⟨hdead, -⟩ | ⟨-, hnew, hcopy⟩⟩ := hleftover
  · cases hlive.symm.trans hdead
  · exact ⟨t, copied, herror, hstops, hleft, hnew, hcopy⟩

/-- A schema that was declared in another store copies a track here up to its first field, and the
copy stays. -/
theorem cloneTrack_leaves_row :
    let s := (withConfig {}).run [.createRow]
    let schema : Schema :=
      { name := "boxes", host := ⟨0⟩, track := [⟨⟨0⟩, "label", .text⟩], frame := [] }
    (∃ accessors w, Schema.build "boxes" [.plain .track "label" .text]
        ⟨withConfig {}, Cursors.empty⟩ = .ok (accessors, schema) w) ∧
      ∃ t, schema.cloneTrack ⟨1⟩ s = .error (.unknownField ⟨0⟩) t ∧
        s.liveRows = [⟨1⟩] ∧ t.liveRows = [⟨1⟩, ⟨2⟩] := by
  refine ⟨⟨_, _, rfl⟩, _, rfl, by decide, by decide⟩

end Store
end TrackStore
