import TrackStore.Proofs.Deletion
import TrackStore.Schema.Formats
import TrackStore.Schema.Track

/-! # Stale rows under a schema

No operation of a schema checks its rows for all of its work: one checks the row first, others come
to it with the first listed field or with the frames. A copy has nothing but its listed fields to
come to the rows with, so where none are listed it succeeds on any rows.
-/
namespace TrackStore

namespace Schema

variable {s : Store} {row src dst : Row}

theorem copyAll_of_refused {e : Error} (refs : List FieldRef)
    (h : ∀ field, Store.copyValue field src dst s = .error e s) :
    copyAll refs src dst s = if refs = [] then .ok () s else .error e s := by
  cases refs with
  | nil => rfl
  | cons r refs =>
    rw [if_neg (List.cons_ne_nil r refs)]
    simp only [copyAll, FieldRef.copyValue, bind, EStateM.bind, h]

theorem removeAll_of_refused {e : Error} (refs : List FieldRef)
    (h : ∀ field, Store.removeAt field row s = .error e s) :
    removeAll refs row s = if refs = [] then .ok 0 s else .error e s := by
  cases refs with
  | nil => rfl
  | cons r refs =>
    rw [if_neg (List.cons_ne_nil r refs)]
    simp only [removeAll, FieldRef.removeAt, bind, EStateM.bind, h]

theorem missingAt_of_refused {e : Error} (refs : List FieldRef)
    (h : ∀ field, s.hasValue field row = .error e) :
    missingAt refs s row = if refs = [] then .ok [] else .error e := by
  cases refs with
  | nil => rfl
  | cons r refs =>
    rw [if_neg (List.cons_ne_nil r refs)]
    simp only [missingAt, FieldRef.hasValueAt, bind, Except.bind, h]

end Schema

namespace Store.Refuses

variable {s : Store} {row : Row}

theorem newFrame (h : s.Refuses row) : Schema.newFrame row s = .error (.staleRow row) s := by
  simp only [Schema.newFrame, bind, EStateM.bind, query_apply, h.checkRow]

theorem cloneTrack (h : s.Refuses row) (schema : Schema) :
    schema.cloneTrack row s = .error (.staleRow row) s := by
  simp only [Schema.cloneTrack, bind, EStateM.bind, query_apply, h.framesAt]

theorem removeTrack (h : s.Refuses row) : Schema.removeTrack row s = .error (.staleRow row) s := by
  simp only [Schema.removeTrack, bind, EStateM.bind, query_apply, h.framesAt]

/-- Without fields of the track it is the frames that are asked for. -/
theorem stripTrack (h : s.Refuses row) (schema : Schema) :
    schema.stripTrack row s = .error (.staleRow row) s := by
  simp only [Schema.stripTrack, bind, EStateM.bind,
    Schema.removeAll_of_refused schema.track h.removeAt]
  by_cases hempty : schema.track = []
  · simp only [if_pos hempty, query_apply, h.framesAt]
  · simp only [if_neg hempty]

theorem missingFields (h : s.Refuses row) (schema : Schema) :
    schema.missingFields s row = .error (.staleRow row) := by
  simp only [Schema.missingFields, bind, Except.bind,
    Schema.missingAt_of_refused schema.track h.hasValue]
  by_cases hempty : schema.track = []
  · simp only [if_pos hempty, h.framesAt]
  · simp only [if_neg hempty]

theorem isComplete (h : s.Refuses row) (schema : Schema) :
    schema.isComplete s row = .error (.staleRow row) := by
  simp only [Schema.isComplete, h.missingFields, bind, Except.bind]

end Store.Refuses

namespace Schema

/-- What a copy of listed fields answers where one of its rows is stale. -/
def refusedCopy (refs : List FieldRef) (row : Row) (w : Workspace) :
    EStateM.Result Error Workspace Unit :=
  if refs = [] then .ok () w else .error (.staleRow row) w

/-- The schema refuses the row as stale, and neither the store nor any cursor changes. A copy
refuses it if it has fields to copy. -/
structure Refuses (schema : Schema) (w : Workspace) (row : Row) : Prop where
  createFrame : schema.createFrame row w = .error (.staleRow row) w
  cloneTrack : Workspace.onStore (schema.cloneTrack row) w = .error (.staleRow row) w
  removeTrack : Workspace.onStore (removeTrack row) w = .error (.staleRow row) w
  stripTrack : Workspace.onStore (schema.stripTrack row) w = .error (.staleRow row) w
  missingFields : schema.missingFields w.store row = .error (.staleRow row)
  isComplete : schema.isComplete w.store row = .error (.staleRow row)
  copyTrackFrom : ∀ dst, Workspace.onStore (schema.copyTrackFields row dst) w =
    refusedCopy schema.track row w
  copyTrackTo : ∀ src, w.store.isLive src = true →
    Workspace.onStore (schema.copyTrackFields src row) w = refusedCopy schema.track row w
  copyFrameFrom : ∀ dst, Workspace.onStore (schema.copyFrameFields row dst) w =
    refusedCopy schema.frame row w
  copyFrameTo : ∀ src, w.store.isLive src = true →
    Workspace.onStore (schema.copyFrameFields src row) w = refusedCopy schema.frame row w

theorem onStore_copyAll {w : Workspace} {row src dst : Row} (refs : List FieldRef)
    (h : ∀ field, Store.copyValue field src dst w.store = .error (.staleRow row) w.store) :
    Workspace.onStore (copyAll refs src dst) w = refusedCopy refs row w := by
  rw [Workspace.onStore, copyAll_of_refused refs h, refusedCopy]
  by_cases hrefs : refs = [] <;> simp only [hrefs, if_true, if_false]

/-- Whatever the schema declares, a row that is not live is refused by everything but a copy of no
fields. -/
theorem refuses_stale {w : Workspace} {row : Row} (schema : Schema)
    (h : w.store.isLive row = false) : schema.Refuses w row := by
  have hrow : w.store.Refuses row := Store.refuses_of_not_live h
  constructor
  case createFrame =>
    simp only [createFrame, bind, EStateM.bind, Workspace.onStore, hrow.newFrame]
  case cloneTrack => simp only [Workspace.onStore, hrow.cloneTrack]
  case removeTrack => simp only [Workspace.onStore, hrow.removeTrack]
  case stripTrack => simp only [Workspace.onStore, hrow.stripTrack]
  case missingFields => exact hrow.missingFields schema
  case isComplete => exact hrow.isComplete schema
  case copyTrackFrom => exact fun dst => onStore_copyAll _ fun field => hrow.copyFrom field dst
  case copyTrackTo =>
    exact fun src hsrc => onStore_copyAll _ fun field => hrow.copyTo field src hsrc
  case copyFrameFrom => exact fun dst => onStore_copyAll _ fun field => hrow.copyFrom field dst
  case copyFrameTo =>
    exact fun src hsrc => onStore_copyAll _ fun field => hrow.copyTo field src hsrc

theorem refuses_stale_apix :
    let s := (Store.withConfig { initialRowCapacity := 0 }).run
      [.register ApixSchema.latitudeField, .register ApixSchema.longitudeField, .createRow,
        .createRow, .deleteRow ⟨1⟩]
    let schema : Schema :=
      { name := "apix", host := ⟨0⟩, track := [],
        frame := [⟨⟨0⟩, "apix_latitude", .binary64⟩, ⟨⟨1⟩, "apix_longitude", .binary64⟩] }
    let w : Workspace := { store := s, cursors := ⟨#[some ⟨2⟩]⟩ }
    s.isLive ⟨1⟩ = false ∧ s.isLive ⟨2⟩ = true ∧ schema.Refuses w ⟨1⟩ := by
  intro s schema w
  have hstale : s.isLive ⟨1⟩ = false := by decide +kernel
  exact ⟨hstale, by decide +kernel, refuses_stale (w := w) schema hstale⟩

/-- The schema with fields for frames only copies the fields of a track between rows that were never
issued. -/
theorem copyTrackFields_unchecked :
    ∃ a w, ApixSchema.new ⟨Store.withConfig { initialRowCapacity := 0 }, .empty⟩ = .ok a w ∧
      w.store.isLive ⟨1⟩ = false ∧
      Workspace.onStore (a.schema.copyTrackFields ⟨1⟩ ⟨2⟩) w = .ok () w ∧
      Workspace.onStore (a.schema.copyTrackFields ⟨1⟩ ⟨2⟩) w ≠ .error (.staleRow ⟨1⟩) w := by
  exact ⟨_, _, rfl, rfl, rfl, fun h => nomatch h⟩

end Schema
end TrackStore
