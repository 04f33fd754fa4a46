import Mathlib.Data.List.Sort
import TrackStore.Proofs.Frames.Joining
import TrackStore.Proofs.StaleRows

/-! # Creating a frame

A frame is created in two steps, and the row of the first step is taken back where the second fails.
A new row has no part in anything, so no check on its side can fail, and taking it back cannot fail
either and leaves nothing but a number that is used up.
-/
namespace TrackStore

namespace Store

/-- The stores differ in their rows at most. -/
structure SameButRows (s t : Store) : Prop where
  config : t.config = s.config
  registry : t.registry = s.registry
  columns : t.columns = s.columns
  frames : t.frames = s.frames
  owners : t.owners = s.owners

/-- The second store is the first with one more row, which has no values, no frames and no track. -/
structure Issued (s : Store) (row : Row) (t : Store) : Prop extends SameButRows s t where
  fresh : s.rows.wasIssued row = false
  issued : t.rows.issued = s.rows.issued + 1
  liveRows : t.liveRows = s.liveRows ++ [row]
  no_slot : ∀ field, t.slot field row = none
  no_frames : t.framesOf row = []
  no_owner : t.owners[row]? = none

/-- The second store is the first with one number used up. -/
structure Spent (s t : Store) : Prop extends SameButRows s t where
  issued : t.rows.issued = s.rows.issued + 1
  isLive : ∀ row, t.isLive row = s.isLive row
  liveRows : t.liveRows = s.liveRows

end Store

namespace RowAllocator
variable {a : RowAllocator}

theorem wasIssued_fst_allocate (a : RowAllocator) : a.wasIssued a.allocate.1 = false := by
  simp [wasIssued, allocate]

/-- The new row has the highest number. -/
theorem WellFormed.liveRows_allocate (h : a.WellFormed) :
    a.allocate.2.liveRows = a.liveRows ++ [a.allocate.1] := by
  have hlast : ∀ row ∈ a.liveRows, row < a.allocate.1 := by
    intro row hmem
    have hissued := h.issued row ((a.mem_liveRows row).mp hmem)
    simp only [wasIssued, Bool.and_eq_true, decide_eq_true_eq] at hissued
    exact hissued.2
  have hsorted : (a.liveRows ++ [a.allocate.1]).Pairwise (· < ·) := by
    simpa [List.pairwise_append, a.pairwise_liveRows] using hlast
  refine a.allocate.2.pairwise_liveRows.eq_of_mem_iff hsorted fun row => ?_
  rw [mem_liveRows, isLive_allocate, List.mem_append, mem_liveRows, List.mem_singleton,
    Bool.or_eq_true, decide_eq_true_eq]

theorem liveRows_congr {b : RowAllocator} (h : ∀ row, b.isLive row = a.isLive row) :
    b.liveRows = a.liveRows :=
  b.pairwise_liveRows.eq_of_mem_iff a.pairwise_liveRows fun row => by
    rw [mem_liveRows, mem_liveRows, h]

/-- A row that is retired at once was live in between only. -/
theorem WellFormed.isLive_release_allocate (h : a.WellFormed) (row : Row) :
    (a.allocate.2.release a.allocate.1).2.isLive row = a.isLive row := by
  rw [isLive_release, isLive_allocate]
  by_cases hrow : row = a.allocate.1
  · cases hlive : a.isLive row with
    | false => simp [hrow]
    | true =>
      have hissued := h.issued row hlive
      simp [hrow, wasIssued_fst_allocate] at hissued
  · simp [hrow]

end RowAllocator

namespace Store
variable {s t : Store} {track frame row : Row}

theorem WellFormed.issued_createRow (hs : s.WellFormed) :
    s.Issued s.rows.allocate.1 (Change.issue.apply s) := by
  have hnew := hs.next_not_live
  constructor
  case toSameButRows => constructor <;> rfl
  case fresh => exact s.rows.wasIssued_fst_allocate
  case issued => exact s.rows.issued_allocate hs.rows.next_pos
  case liveRows => exact hs.rows.liveRows_allocate
  case no_slot => exact hs.slot_of_not_live hnew
  case no_frames => exact hs.framesOf_of_not_live hnew
  case no_owner => exact hs.owner_of_not_live hnew

/-- Of a track and a row that was just created, only the track can be in the way of joining. -/
theorem WellFormed.mayJoin_issued (hs : s.WellFormed) (hlive : s.isLive track = true) :
    (Change.issue.apply s).mayJoin track s.rows.allocate.1 =
      if s.owners[track]? = none then .ok true
      else .error (.nestedFrame track s.rows.allocate.1) := by
  have hissued := hs.issued_createRow
  have htrack : (Change.issue.apply s).isLive track = true := by simp [isLive_apply, hlive]
  have hframe : (Change.issue.apply s).isLive s.rows.allocate.1 = true := by simp [isLive_apply]
  have hne : track ≠ s.rows.allocate.1 := by
    rintro rfl
    simp [hs.next_not_live] at hlive
  rw [mayJoin_of_live htrack hframe hne, hissued.no_owner, hissued.owners]
  simp only [hissued.no_frames, true_and]

/-- A row that is in no table but that of the live rows leaves the others alone if it is dropped. -/
theorem drop_eq_of_unused (hslot : ∀ field, s.slot field row = none) (hframes : row ∉ s.frames)
    (howner : s.owners[row]? = none) :
    s.drop row = { s with rows := (s.rows.release row).2 } := by
  have hcolumns : s.columns.map (·.erase row) = s.columns := by
    refine Array.ext (by simp) fun i _ hi => ?_
    have hempty := hslot ⟨i⟩
    simp only [slot, Array.getElem?_eq_getElem hi, Option.bind_some] at hempty
    rw [Array.getElem_map, erase_eq_self hempty]
  have hleave : s.leave row = s := by simp only [leave, howner]
  have herase : s.frames.erase row = s.frames :=
    erase_eq_self (Std.ExtTreeMap.getElem?_eq_none hframes)
  simp only [drop, purge, hcolumns, hleave, herase]

/-- Deleting a row that was just created cannot fail. -/
theorem WellFormed.deleteRow_issued (hs : s.WellFormed) :
    ∃ t, deleteRow s.rows.allocate.1 (Change.issue.apply s) = .ok () t ∧ s.Spent t := by
  have hissued := hs.issued_createRow
  have hnew := hs.next_not_live
  have hlive : (Change.issue.apply s).isLive s.rows.allocate.1 = true := by simp [isLive_apply]
  have hkey : s.rows.allocate.1 ∉ (Change.issue.apply s).frames := by
    intro hmem
    simp [hs.membership.keys_live _ hmem] at hnew
  refine ⟨_, deleteRow_eq_drop ⟨hlive, hissued.no_frames⟩, ?_⟩
  rw [drop_eq_of_unused hissued.no_slot hkey hissued.no_owner]
  have hsame := hs.rows.isLive_release_allocate
  constructor
  case toSameButRows => constructor <;> rfl
  case issued => exact s.rows.issued_allocate hs.rows.next_pos
  case isLive => exact hsame
  case liveRows => exact RowAllocator.liveRows_congr hsame

end Store

namespace Schema
open Store

variable {s : Store} {w : Workspace} {track : Row}

/-- A track that is live gets a new row, which joins it or is deleted again. -/
theorem newFrame_of_live (hlive : s.isLive track = true) :
    newFrame track s =
      match addFrame track s.rows.allocate.1 (Change.issue.apply s) with
      | .ok _ t => .ok s.rows.allocate.1 t
      | .error e t =>
        match deleteRow s.rows.allocate.1 t with
        | .ok _ u => .error e u
        | .error e' u => .error e' u := by
  simp only [newFrame, bind, EStateM.bind, query_apply, (checkRow_eq_ok ..).mpr hlive,
    createRow_eq, tryCatch, tryCatchThe, MonadExceptOf.tryCatch, EStateM.tryCatch]
  cases addFrame track s.rows.allocate.1 (Change.issue.apply s) with
  | ok _ t => rfl
  | error e t =>
    simp only [EStateM.Backtrackable.restore, EStateM.dummyRestore]
    cases deleteRow s.rows.allocate.1 t <;> rfl

/-- A new row can join every track that is no frame itself. -/
theorem newFrame_of_top (hs : s.WellFormed) (hlive : s.isLive track = true)
    (htop : s.owners[track]? = none) :
    ∃ t, addFrame track s.rows.allocate.1 (Change.issue.apply s) = .ok () t ∧
      (Change.issue.apply s).Joined track s.rows.allocate.1 t ∧
      newFrame track s = .ok s.rows.allocate.1 t := by
  have hadd : addFrame track s.rows.allocate.1 (Change.issue.apply s) =
      .ok () ((Change.issue.apply s).join track s.rows.allocate.1) := by
    rw [addFrame_apply, hs.mayJoin_issued hlive, if_pos htop]
  exact ⟨_, hadd, joined_join .., by rw [newFrame_of_live hlive, hadd]⟩

/-- The row that was created for a track that is a frame is gone again. -/
theorem newFrame_of_frame (hs : s.WellFormed) {owner : Row}
    (howner : s.owners[track]? = some owner) :
    ∃ t, newFrame track s = .error (.nestedFrame track s.rows.allocate.1) t ∧ s.Spent t := by
  have hlive := (hs.membership.owner_live owner track howner).1
  have hadd : addFrame track s.rows.allocate.1 (Change.issue.apply s) =
      .error (.nestedFrame track s.rows.allocate.1) (Change.issue.apply s) := by
    rw [addFrame_apply, hs.mayJoin_issued hlive, howner, if_neg (Option.some_ne_none owner)]
  obtain ⟨t, hdelete, hspent⟩ := hs.deleteRow_issued
  exact ⟨t, by rw [newFrame_of_live hlive, hadd]; simp only [hdelete], hspent⟩

/-- Under every schema and all settings, a live track gets a new row. Unless it is a frame itself
the row joins it, behind its other frames, and is selected; where it is a frame, the row is gone
again. A track that is not live is refused before any row is created. -/
theorem createFrame_adds_or_restores (hs : w.store.Reachable) (schema : Schema)
    (hhost : schema.host.cell < w.cursors.cells.size) (track : Row) :
    (w.store.isLive track = true →
      ∃ frame created, createRow w.store = .ok frame created ∧ w.store.Issued frame created ∧
        (w.store.owners[track]? = none →
          ∃ t, addFrame track frame created = .ok () t ∧ created.Joined track frame t ∧
            schema.createFrame track w =
              .ok frame ⟨t, w.cursors.select schema.host (some frame)⟩ ∧
            ∀ host, (w.cursors.select schema.host (some frame)).selected host =
              if host = schema.host then some frame else w.cursors.selected host) ∧
        ∀ owner, w.store.owners[track]? = some owner →
          ∃ t, schema.createFrame track w = .error (.nestedFrame track frame) ⟨t, w.cursors⟩ ∧
            w.store.Spent t) ∧
    (w.store.isLive track = false → schema.createFrame track w = .error (.staleRow track) w) := by
  have hwf := hs.wellFormed
  constructor
  · intro hlive
    refine ⟨_, _, createRow_eq w.store, hwf.issued_createRow, ?_, ?_⟩
    · intro htop
      obtain ⟨t, hadd, hjoined, hnew⟩ := newFrame_of_top hwf hlive htop
      refine ⟨t, hadd, hjoined, ?_, ?_⟩
      · simp only [createFrame, bind, EStateM.bind, Workspace.onStore, hnew]
        rfl
      · exact fun host => w.cursors.selected_select schema.host host _ hhost
    · intro owner howner
      obtain ⟨t, hnew, hspent⟩ := newFrame_of_frame hwf howner
      exact ⟨t, by simp only [createFrame, bind, EStateM.bind, Workspace.onStore, hnew], hspent⟩
  · intro hlive
    have hrefused := (refuses_of_not_live hlive).newFrame
    simp only [createFrame, bind, EStateM.bind, Workspace.onStore, hrefused]

theorem createFrame_adds_or_restores_frame :
    let s := (withConfig { initialRowCapacity := 0, doubleDelete := .error }).run
      [.createRow, .createRow, .createRow, .register { name := "flag", type := .bool },
        .setRaw ⟨0⟩ ⟨2⟩ [1], .addFrame ⟨1⟩ ⟨2⟩, .deleteRow ⟨3⟩]
    let w : Workspace := ⟨s, ⟨#[some ⟨2⟩, none]⟩⟩
    let schema : Schema := { name := "", host := ⟨1⟩, track := [], frame := [] }
    (∃ t, schema.createFrame ⟨1⟩ w = .ok ⟨4⟩ ⟨t, w.cursors.select ⟨1⟩ (some ⟨4⟩)⟩ ∧
      t.framesOf ⟨1⟩ = [⟨2⟩, ⟨4⟩]) ∧
    (∃ t, schema.createFrame ⟨2⟩ w = .error (.nestedFrame ⟨2⟩ ⟨4⟩) ⟨t, w.cursors⟩ ∧ s.Spent t) ∧
    schema.createFrame ⟨3⟩ w = .error (.staleRow ⟨3⟩) w := by
  intro s w schema
  have hs : w.store.Reachable := ⟨_, _, rfl⟩
  have hhost : schema.host.cell < w.cursors.cells.size := by decide
  refine ⟨?_, ?_, (createFrame_adds_or_restores hs schema hhost ⟨3⟩).2 (by decide +kernel)⟩
  · obtain ⟨frame, created, hcreate, -, hadded, -⟩ :=
      (createFrame_adds_or_restores hs schema hhost ⟨1⟩).1 (by decide +kernel)
    cases hcreate
    obtain ⟨t, -, hjoined, hframe, -⟩ := hadded (by decide +kernel)
    refine ⟨t, hframe, ?_⟩
    rw [hjoined.frames_track]
    decide +kernel
  · obtain ⟨frame, created, hcreate, -, -, hnested⟩ :=
      (createFrame_adds_or_restores hs schema hhost ⟨2⟩).1 (by decide +kernel)
    cases hcreate
    exact hnested ⟨1⟩ (by decide +kernel)

end Schema
end TrackStore
