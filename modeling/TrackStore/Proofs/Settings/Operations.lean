import TrackStore.Geo.Attach
import TrackStore.Proofs.Settings.Blind
import TrackStore.Schema.Track
import TrackStore.Store.Handles

/-! # Operations that are blind to the settings

Whatever is put together from calls on a store is blind to the settings, if it deletes no row that
was deleted before. The operations that delete rows delete live ones only: a new frame that cannot
join its track, and the frames of a track that is removed, one after the other, before the track.
-/
namespace TrackStore

open Store (Alike blind_query blind_edit)

variable {cs : Config × Config}

namespace Store.Alike

variable {s t : Store} (h : Alike cs s t)
include h

/-- What is read through a view of one row. -/
theorem view_bind {α : Type} {read : RowView → Except Error α} {row : Row}
    (hread : s.isLive row = true → read ⟨s, row⟩ = read ⟨t, row⟩) :
    (do read (← s.view row)) = (do read (← t.view row)) := by
  simp only [Store.view, Store.checkRow, ← h.isLive]
  cases hlive : s.isLive row with
  | true => exact hread hlive
  | false => rfl

theorem existing (ty : FieldType) (name : String) :
    Accessor.existing ty s name = Accessor.existing ty t name := by
  simp only [Accessor.existing, h.lookupField, h.describeField]

theorem missingAt (refs : List FieldRef) (row : Row) :
    Schema.missingAt refs s row = Schema.missingAt refs t row := by
  induction refs with
  | nil => rfl
  | cons r refs ih => simp only [Schema.missingAt, FieldRef.hasValueAt, h.hasValue, ih]

theorem missingAtFrames (schema : Schema) (frames : List Row) :
    schema.missingAtFrames s frames = schema.missingAtFrames t frames := by
  induction frames with
  | nil => rfl
  | cons frame frames ih => simp only [Schema.missingAtFrames, h.missingAt, ih]

theorem missingFields (schema : Schema) (track : Row) :
    schema.missingFields s track = schema.missingFields t track := by
  simp only [Schema.missingFields, h.missingAt, h.framesAt, h.missingAtFrames]

theorem formatOf (f : SourceFormatSchema) (track : Row) :
    f.formatOf s track = f.formatOf t track := by
  simp only [SourceFormatSchema.formatOf, Accessor.getAt, h.getValue]

theorem findTrack (k : Kw18Schema) (number : BitVec 64) :
    k.findTrack s number = k.findTrack t number := by
  simp only [Kw18Schema.findTrack, Accessor.lookup, Store.lookup]
  exact h.lookupIn ..

theorem findAmong (k : Kw18Schema) (number : BitVec 64) (frames : List Row) :
    k.findAmong s number frames = k.findAmong t number frames := by
  induction frames with
  | nil => rfl
  | cons frame frames ih => simp only [Kw18Schema.findAmong, Accessor.getAt, h.getValue, ih]

theorem findFrame (k : Kw18Schema) (track : Row) (number : BitVec 64) :
    k.findFrame s track number = k.findFrame t track number := by
  simp only [Kw18Schema.findFrame, h.framesAt, h.findAmong]

theorem resolve (source : GeoSource) : source.resolve s = source.resolve t := by
  simp only [GeoSource.resolve, GeoSource.field, h.existing]

theorem trackSource (formats : Option (Accessor .fileFormat)) (fallback : GeoFallback)
    (cache : SourceCache) (track : Row) :
    ScorableGeoSchema.trackSource s formats fallback cache track =
      ScorableGeoSchema.trackSource t formats fallback cache track := by
  simp only [ScorableGeoSchema.trackSource, SourceCache.fields, Accessor.getAt, h.checkRow,
    h.getValue, h.resolve]

/-- Whether coordinates are judged is the setting that alike stores share. -/
theorem coordinate (source : TrackSource) (frame : Row) :
    source.coordinate s frame = source.coordinate t frame := by
  simp only [TrackSource.coordinate, Accessor.getAt, h.getValue, h.config_left, h.config_right,
    h.validates]

end Store.Alike

theorem Store.blind_viewMut (row : Row) : Blind (Alike cs) (viewMut row) :=
  (blind_query fun h => h.checkRow row).bind fun _ => .pure _

theorem Accessor.blind_setAt {ty : FieldType} (a : Accessor ty) (row : Row) (v : ty.Value) :
    Blind (Alike cs) (a.setAt row v) :=
  blind_edit (e := .setValue ty a.field row v) nofun

theorem Accessor.blind_registerDescribed (ty : FieldType) (d : FieldDescriptor) :
    Blind (Alike cs) (registerDescribed ty d) :=
  (blind_edit (e := .register { d with type := ty }) nofun).bind fun _ => .pure _

namespace Schema

theorem blind_declare (s : Schema) (container : Container) (ty : FieldType)
    (d : FieldDescriptor) : Blind (Alike cs) (s.declare container ty d) :=
  (Accessor.blind_registerDescribed ty d).bind fun _ => .pure _

theorem blind_declareAll (s : Schema) (ds : List Declaration) :
    Blind (Alike cs) (s.declareAll ds) := by
  induction ds generalizing s with
  | nil => exact .pure _
  | cons d ds ih => exact (s.blind_declare ..).bind fun x => (ih x.2).bind fun _ => .pure _

end Schema

theorem Kw18Schema.blind_declare (s : Schema) : Blind (Alike cs) (declare s) := by
  refine (s.blind_declare ..).bind fun x => ?_
  refine (x.2.blind_declare ..).bind fun x => ?_
  refine (x.2.blind_declare ..).bind fun x => ?_
  refine (x.2.blind_declare ..).bind fun x => ?_
  refine (x.2.blind_declare ..).bind fun x => ?_
  exact (x.2.blind_declare ..).bind fun _ => .pure _

theorem ApixSchema.blind_declare (s : Schema) : Blind (Alike cs) (declare s) := by
  refine (s.blind_declare ..).bind fun x => ?_
  exact (x.2.blind_declare ..).bind fun _ => .pure _

theorem SourceFormatSchema.blind_declare (s : Schema) : Blind (Alike cs) (declare s) := by
  refine (s.blind_declare ..).bind fun x => ?_
  exact (x.2.blind_declare ..).bind fun _ => .pure _

theorem ScorableGeoSchema.blind_declare (s : Schema) : Blind (Alike cs) (declare s) :=
  (s.blind_declare ..).bind fun _ => .pure _

namespace Store

theorem isLive_deleteRow {s t : Store} {row other : Row} (hne : other ≠ row)
    (h : deleteRow row s = .ok () t) : t.isLive other = s.isLive other := by
  rw [deleteRow_apply] at h
  rcases hm : s.mayDelete row with e | (_ | _) <;> rw [hm] at h <;> cases h
  · rfl
  · exact (isLive_apply s (.drop row) other).trans (by simp [hne])

theorem isLive_deleteRows {s t : Store} {rows : List Row} {other : Row} (hother : other ∉ rows)
    (h : rows.forM deleteRow s = .ok () t) : t.isLive other = s.isLive other := by
  induction rows generalizing s with
  | nil =>
    cases h
    rfl
  | cons row rows ih =>
    rw [List.mem_cons, not_or] at hother
    simp only [List.forM, bind, EStateM.bind] at h
    cases hrow : deleteRow row s with
    | error e u => simp [hrow] at h
    | ok _ u =>
      simp only [hrow] at h
      exact (ih hother.2 h).trans (isLive_deleteRow hother.1 hrow)

/-- Distinct live rows are deleted one after the other: each is live when its turn comes. -/
theorem Alike.deleteRows {s t : Store} (h : Alike cs s t) {rows : List Row}
    (hlive : ∀ row ∈ rows, s.isLive row = true) (hnodup : rows.Nodup) :
    SameResult (Alike cs) (rows.forM deleteRow s) (rows.forM deleteRow t) := by
  induction rows generalizing s t with
  | nil => exact .ok () h
  | cons row rows ih =>
    rw [List.nodup_cons] at hnodup
    rw [List.forall_mem_cons] at hlive
    refine (h.deleteRow_live hlive.1).bind fun _ s' t' hdelete h' => ih h' ?_ hnodup.2
    intro other hother
    have hne : other ≠ row := fun he => hnodup.1 (he ▸ hother)
    rw [isLive_deleteRow hne hdelete]
    exact hlive.2 other hother

end Store

namespace Schema

theorem blind_copyAll (refs : List FieldRef) (src dst : Row) :
    Blind (Alike cs) (copyAll refs src dst) := by
  induction refs with
  | nil => exact .pure _
  | cons r refs ih => exact (blind_edit (e := .copyValue r.field src dst) nofun).bind fun _ => ih

theorem blind_removeAll (refs : List FieldRef) (row : Row) :
    Blind (Alike cs) (removeAll refs row) := by
  induction refs with
  | nil => exact .pure _
  | cons r refs ih =>
    refine (blind_edit (e := .removeAt r.field row) nofun).bind fun present => ?_
    exact ih.bind fun others => .pure _

/-- The row that is deleted again is the one that was just created. -/
theorem blind_newFrame (track : Row) : Blind (Alike cs) (newFrame track) := by
  refine (blind_query fun h => h.checkRow track).bind fun _ => ⟨fun {s t} h => ?_⟩
  refine (h.perform (e := .createRow) nofun).bind fun frame s' t' hcreate h' => ?_
  cases hcreate
  have hlive : (Change.issue.apply s).isLive s.rows.allocate.1 = true := by
    simp [Store.isLive_apply]
  refine SameResult.bind (SameResult.tryCatch ?_ ?_) fun _ _ _ _ h => .ok _ h
  · exact h'.perform (e := .addFrame track s.rows.allocate.1) nofun
  · intro e u v herror hu
    cases Edit.perform_error (e := .addFrame track s.rows.allocate.1) herror
    exact (hu.deleteRow_live hlive).bind fun _ _ _ _ h => .error e h

theorem blind_cloneFrames (schema : Schema) (dst : Row) (frames : List Row) :
    Blind (Alike cs) (schema.cloneFrames dst frames) := by
  induction frames with
  | nil => exact .pure _
  | cons frame frames ih =>
    refine (blind_edit (e := .createRow) nofun).bind fun copy => ?_
    refine (blind_copyAll schema.frame frame copy).bind fun _ => ?_
    exact (blind_edit (e := .addFrame dst copy) nofun).bind fun _ => ih

theorem blind_cloneTrack (schema : Schema) (src : Row) :
    Blind (Alike cs) (schema.cloneTrack src) := by
  refine (blind_query fun h => h.framesAt src).bind fun frames => ?_
  refine (blind_edit (e := .createRow) nofun).bind fun dst => ?_
  refine (blind_copyAll schema.track src dst).bind fun _ => ?_
  exact (schema.blind_cloneFrames dst frames).bind fun _ => .pure _

theorem blind_stripFrames (schema : Schema) (frames : List Row) :
    Blind (Alike cs) (schema.stripFrames frames) := by
  induction frames with
  | nil => exact .pure _
  | cons frame frames ih =>
    exact (blind_removeAll schema.frame frame).bind fun removed => ih.bind fun others => .pure _

theorem blind_stripTrack (schema : Schema) (track : Row) :
    Blind (Alike cs) (schema.stripTrack track) := by
  refine (blind_removeAll schema.track track).bind fun removed => ?_
  refine (blind_query fun h => h.framesAt track).bind fun frames => ?_
  exact (schema.blind_stripFrames frames).bind fun others => .pure _

theorem blind_removeTrack (track : Row) : Blind (Alike cs) (removeTrack track) := by
  refine ⟨fun {s t} h => ?_⟩
  refine SameResult.bind ((blind_query fun h => h.framesAt track).result h) ?_
  intro frames s' t' hframes h'
  rw [Store.query_apply] at hframes
  cases hlist : s.framesAt track with
  | error e => simp [hlist] at hframes
  | ok listed =>
    simp only [hlist] at hframes
    cases hframes
    obtain ⟨htrack, rfl⟩ := (Store.framesAt_eq_ok ..).mp hlist
    have hmembers := h.wellFormed.membership
    have hlive : ∀ frame ∈ s.framesOf track, s.isLive frame = true :=
      fun _ hframe => hmembers.frame_live hframe
    refine (h'.deleteRows hlive (hmembers.nodup track)).bind fun _ u v hdelete hu => ?_
    have hnot : track ∉ s.framesOf track := hmembers.not_mem_framesOf track
    exact hu.deleteRow_live ((Store.isLive_deleteRows hnot hdelete).trans htrack)

end Schema

theorem SourceFormatSchema.blind_recordSource (f : SourceFormatSchema) (track : Row)
    (format : FileFormat) (file : Option String) :
    Blind (Alike cs) (f.recordSource track format file) := by
  refine (f.sourceFormat.blind_setAt track format).bind fun _ => ?_
  cases file with
  | none => exact .pure _
  | some file => exact f.sourceFile.blind_setAt track file

namespace ScorableGeoSchema

variable (g : ScorableGeoSchema)

theorem blind_attachFrame (source : TrackSource) (index : Nat) (frame : Row)
    (report : AttachReport) : Blind (Alike cs) (g.attachFrame source index frame report) := by
  refine (blind_query fun h => h.coordinate source frame).bind fun result => ?_
  cases result with
  | error reason => exact .pure _
  | ok c => exact (g.geoCoord.blind_setAt frame c).bind fun _ => .pure _

theorem blind_attachFrames (source : TrackSource) (index : Nat) (frames : List Row)
    (report : AttachReport) : Blind (Alike cs) (g.attachFrames source index frames report) := by
  induction frames generalizing index report with
  | nil => exact .pure _
  | cons frame frames ih =>
    exact (g.blind_attachFrame source index frame report).bind fun report => ih (index + 1) report

theorem blind_attachTracks (formats : Option (Accessor .fileFormat)) (fallback : GeoFallback)
    (cache : SourceCache) (tracks : List Row) (report : AttachReport) :
    Blind (Alike cs) (g.attachTracks formats fallback cache tracks report) := by
  induction tracks generalizing cache report with
  | nil => exact .pure _
  | cons track tracks ih =>
    refine (blind_query fun h => h.trackSource formats fallback cache track).bind fun x => ?_
    refine (blind_query fun h => h.framesAt track).bind fun frames => ?_
    exact (g.blind_attachFrames x.1 0 frames report.countTrack).bind fun report => ih x.2 report

theorem blind_attach (tracks : List Row) (fallback : GeoFallback) :
    Blind (Alike cs) (g.attach tracks fallback) := by
  refine (blind_query fun h => by rw [formatField, formatField, h.existing]).bind fun formats => ?_
  exact g.blind_attachTracks formats fallback {} tracks {}

end ScorableGeoSchema
end TrackStore
