import TrackStore.Proofs.Settings.Operations

/-! # What the settings do not decide

Two stores are made with settings that agree on the judging of coordinates, and the same calls are
made on both. Neither the room asked for beforehand nor the policy for second deletions shows in
anything but the answer to a second deletion.
-/
namespace TrackStore

/-- What can be asked of a store and of the cursors over it. The values of a field are looked for in
the order in which `listing` has its slots. -/
inductive Question where
  | isLive (row : Row)
  | checkRow (row : Row)
  | liveRows
  | stats
  | lookupField (name : String)
  | describeField (field : FieldId)
  | containsField (field : FieldId)
  | fields
  | checkType (t : FieldType) (field : FieldId)
  | existing (t : FieldType) (name : String)
  | getRaw (field : FieldId) (row : Row)
  | hasValue (field : FieldId) (row : Row)
  | fieldsAt (row : Row)
  | getValue (t : FieldType) (field : FieldId) (row : Row)
  | lookup (listing : Column → List (Row × Bytes)) (t : FieldType) (field : FieldId) (v : t.Value)
  | framesAt (track : Row)
  | owningTrack (frame : Row)
  | viewGet (row : Row) (t : FieldType) (field : FieldId)
  | viewHasValue (row : Row) (field : FieldId)
  | viewFields (row : Row)
  | viewFrames (row : Row)
  | selected (host : Host)
  | resolve (host : Host)
  | get (t : FieldType) (a : Accessor t)
  | selectedHasValue (t : FieldType) (a : Accessor t)
  | missingFields (schema : Schema) (track : Row)
  | isComplete (schema : Schema) (track : Row)
  | formatOf (f : SourceFormatSchema) (track : Row)
  | findTrack (k : Kw18Schema) (number : BitVec 64)
  | findFrame (k : Kw18Schema) (track : Row) (number : BitVec 64)

namespace Question

abbrev Answer : Question → Type
  | isLive _ | containsField _ | hasValue .. | viewHasValue .. | selectedHasValue ..
  | isComplete .. => Bool
  | checkRow _ | checkType .. => Unit
  | liveRows | framesAt _ | viewFrames _ => List Row
  | stats => Stats
  | lookupField _ => Option FieldId
  | describeField _ => FieldDescriptor
  | fields => List (FieldId × FieldDescriptor)
  | existing t _ => Option (Accessor t)
  | getRaw .. => Option Bytes
  | fieldsAt _ | viewFields _ => List FieldId
  | getValue t .. | viewGet _ t _ | get t _ => Option t.Value
  | lookup .. | owningTrack _ | selected _ | findTrack .. | findFrame .. => Option Row
  | resolve _ => Row
  | missingFields .. => List MissingField
  | formatOf .. => FileFormat

def ask : (q : Question) → Workspace → Except Error q.Answer
  | isLive row, w => .ok (w.store.isLive row)
  | checkRow row, w => w.store.checkRow row
  | liveRows, w => .ok w.store.liveRows
  | stats, w => .ok w.store.stats
  | lookupField name, w => .ok (w.store.lookupField name)
  | describeField field, w => w.store.describeField field
  | containsField field, w => .ok (w.store.registry.contains field)
  | fields, w => .ok w.store.registry.toList
  | checkType t field, w => w.store.checkType t field
  | existing t name, w => Accessor.existing t w.store name
  | getRaw field row, w => w.store.getRaw field row
  | hasValue field row, w => w.store.hasValue field row
  | fieldsAt row, w => w.store.fieldsAt row
  | getValue t field row, w => w.store.getValue t field row
  | lookup listing t field v, w => w.store.lookupIn listing t field v
  | framesAt track, w => w.store.framesAt track
  | owningTrack frame, w => w.store.owningTrack frame
  | viewGet row t field, w => do (← w.store.view row).get t field
  | viewHasValue row field, w => do (← w.store.view row).hasValue field
  | viewFields row, w => do (← w.store.view row).fields
  | viewFrames row, w => do (← w.store.view row).frames
  | selected host, w => .ok (w.cursors.selected host)
  | resolve host, w => w.resolve host
  | get _ a, w => a.get w
  | selectedHasValue _ a, w => a.hasValue w
  | missingFields schema track, w => schema.missingFields w.store track
  | isComplete schema track, w => schema.isComplete w.store track
  | formatOf f track, w => f.formatOf w.store track
  | findTrack k number, w => k.findTrack w.store number
  | findFrame k track number, w => k.findFrame w.store track number

end Question

/-- A call on a store and the cursors over it, with any handles. -/
inductive Call where
  | edit (e : Edit)
  | ask (q : Question)
  | registerDescribed (t : FieldType) (d : FieldDescriptor)
  | newHost
  | select (host : Host) (row : Option Row)
  | viewMutGet (row : Row) (t : FieldType) (field : FieldId)
  | viewMutSet (row : Row) (t : FieldType) (field : FieldId) (v : t.Value)
  | viewMutRemove (row : Row) (field : FieldId)
  | set (t : FieldType) (a : Accessor t) (v : t.Value)
  | build (name : String) (ds : List Declaration)
  | newKw18
  | newApix
  | newSourceFormat
  | newScorableGeo
  | duplicate (schema : Schema)
  | cloneKw18 (k : Kw18Schema)
  | cloneScorableGeo (g : ScorableGeoSchema)
  | createTrack (schema : Schema)
  | createFrame (schema : Schema) (track : Row)
  | copyAll (refs : List FieldRef) (src dst : Row)
  | removeAll (refs : List FieldRef) (row : Row)
  | cloneTrack (schema : Schema) (src : Row)
  | removeTrack (track : Row)
  | stripTrack (schema : Schema) (track : Row)
  | recordSource (f : SourceFormatSchema) (track : Row) (format : FileFormat) (file : Option String)
  | attach (g : ScorableGeoSchema) (tracks : List Row) (fallback : GeoFallback)

namespace Call

abbrev Answer : Call → Type
  | edit e => e.Answer
  | ask q => q.Answer
  | registerDescribed t _ => Accessor t
  | newHost => Host
  | build .. => List (Sigma Accessor) × Schema
  | newKw18 | cloneKw18 _ => Kw18Schema
  | newApix => ApixSchema
  | newSourceFormat => SourceFormatSchema
  | newScorableGeo | cloneScorableGeo _ => ScorableGeoSchema
  | duplicate _ => Schema
  | createTrack _ | createFrame .. | cloneTrack .. => Row
  | removeAll .. | stripTrack .. => Nat
  | attach .. => AttachReport
  | viewMutGet _ t _ => Option t.Value
  | viewMutSet .. => RowViewMut
  | viewMutRemove .. => Bool
  | select .. | set .. | copyAll .. | removeTrack _ | recordSource .. => Unit

def perform : (c : Call) → WorkspaceM c.Answer
  | edit e => Workspace.onStore e.perform
  | ask q => Workspace.query q.ask
  | registerDescribed t d => Workspace.onStore (Accessor.registerDescribed t d)
  | newHost => Workspace.newHost
  | select host row => Workspace.select host row
  | viewMutGet row t field => Workspace.onStore do Store.query ((← Store.viewMut row).get t field)
  | viewMutSet row t field v => Workspace.onStore do (← Store.viewMut row).set t field v
  | viewMutRemove row field => Workspace.onStore do (← Store.viewMut row).remove field
  | set _ a v => a.set v
  | build name ds => Schema.build name ds
  | newKw18 => Kw18Schema.new
  | newApix => ApixSchema.new
  | newSourceFormat => SourceFormatSchema.new
  | newScorableGeo => ScorableGeoSchema.new
  | duplicate schema => schema.duplicate
  | cloneKw18 k => k.clone
  | cloneScorableGeo g => g.clone
  | createTrack schema => schema.createTrack
  | createFrame schema track => schema.createFrame track
  | copyAll refs src dst => Workspace.onStore (Schema.copyAll refs src dst)
  | removeAll refs row => Workspace.onStore (Schema.removeAll refs row)
  | cloneTrack schema src => Workspace.onStore (schema.cloneTrack src)
  | removeTrack track => Workspace.onStore (Schema.removeTrack track)
  | stripTrack schema track => Workspace.onStore (schema.stripTrack track)
  | recordSource f track format file => Workspace.onStore (f.recordSource track format file)
  | attach g tracks fallback => Workspace.onStore (g.attach tracks fallback)

def answer (c : Call) (w : Workspace) : Except Error c.Answer :=
  match c.perform w with
  | .ok a _ => .ok a
  | .error e _ => .error e

/-- What a call leaves behind, whether or not it succeeds. -/
def after (c : Call) (w : Workspace) : Workspace :=
  match c.perform w with
  | .ok _ v => v
  | .error _ v => v

end Call

/-- The store and the cursors after a sequence of calls. -/
def Workspace.run (w : Workspace) (calls : List Call) : Workspace :=
  calls.foldl (fun w c => c.after w) w

/-- Everything that can be seen of a store, but its settings. -/
structure Observation where
  liveRows : List Row
  fields : List (FieldId × FieldDescriptor)
  slots : FieldId → Row → Option Bytes
  frames : Row → List Row
  owners : Row → Option Row
  stats : Stats

def Store.observe (s : Store) : Observation where
  liveRows := s.liveRows
  fields := s.registry.toList
  slots := s.slot
  frames := s.framesOf
  owners row := s.owners[row]?
  stats := s.stats

theorem Store.Alike.observe {cs : Config × Config} {s t : Store} (h : Alike cs s t) :
    s.observe = t.observe := by
  have hslots : s.slot = t.slot := funext₂ fun field row => by rw [slot, slot, h.columns]
  have hframes : s.framesOf = t.framesOf := funext h.framesOf
  simp only [Store.observe, h.liveRows, h.registry, hslots, hframes, h.owners, h.stats]

namespace Workspace

variable {cs : Config × Config} {α : Type}

/-- The stores are alike and the cursors the same. -/
structure Alike (cs : Config × Config) (v w : Workspace) : Prop where
  store : Store.Alike cs v.store w.store
  cursors : v.cursors = w.cursors

theorem Alike.onStore {v w : Workspace} (h : Alike cs v w) {work : StoreM α}
    (hwork : SameResult (Store.Alike cs) (work v.store) (work w.store)) :
    SameResult (Alike cs) (Workspace.onStore work v) (Workspace.onStore work w) := by
  simp only [Workspace.onStore]
  generalize work v.store = x at hwork ⊢
  generalize work w.store = y at hwork ⊢
  cases hwork with
  | ok a hstore => exact .ok a ⟨hstore, h.cursors⟩
  | error e hstore => exact .error e ⟨hstore, h.cursors⟩

theorem blind_onStore {work : StoreM α} (hwork : Blind (Store.Alike cs) work) :
    Blind (Alike cs) (onStore work) :=
  ⟨fun h => h.onStore (hwork.result h.store)⟩

theorem blind_query {read : Workspace → Except Error α}
    (hread : ∀ {v w : Workspace}, Alike cs v w → read v = read w) :
    Blind (Alike cs) (query read) := by
  refine ⟨fun {v w} h => ?_⟩
  simp only [query, ← hread h]
  cases read v with
  | ok a => exact .ok a h
  | error e => exact .error e h

theorem blind_newHost : Blind (Alike cs) newHost := by
  refine ⟨fun {v w} h => ?_⟩
  simp only [newHost_apply, ← h.cursors]
  exact .ok _ ⟨h.store, rfl⟩

theorem blind_select (host : Host) (row : Option Row) : Blind (Alike cs) (select host row) :=
  ⟨fun h => .ok _ ⟨h.store, congrArg (·.select host row) h.cursors⟩⟩

theorem blind_new {name : String} {declare : Schema → StoreM α}
    (hdeclare : ∀ s, Blind (Store.Alike cs) (declare s)) :
    Blind (Alike cs) (do let s ← Schema.new name; onStore (declare s)) :=
  (blind_newHost.bind fun _ => .pure _).bind fun s => blind_onStore (hdeclare s)

theorem blind_duplicate (schema : Schema) : Blind (Alike cs) schema.duplicate :=
  blind_newHost.bind fun _ => .pure _

theorem Alike.selectedRow {v w : Workspace} (h : Alike cs v w) {t : FieldType} (a : Accessor t) :
    a.selectedRow v = a.selectedRow w := by
  simp only [Accessor.selectedRow, Workspace.resolve, Cursors.resolve, h.cursors, h.store.isLive]

/-- Every question has one answer. -/
theorem Alike.ask {v w : Workspace} (h : Alike cs v w) (q : Question) : q.ask v = q.ask w := by
  have hs := h.store
  cases q with
  | isLive row => exact congrArg Except.ok (hs.isLive row)
  | checkRow row => exact hs.checkRow row
  | liveRows => exact congrArg Except.ok hs.liveRows
  | stats => exact congrArg Except.ok hs.stats
  | lookupField name => exact congrArg Except.ok (hs.lookupField name)
  | describeField field => exact hs.describeField field
  | containsField field =>
    exact congrArg (fun r => Except.ok (Registry.contains r field)) hs.registry
  | fields => exact congrArg (fun r => Except.ok (Registry.toList r)) hs.registry
  | checkType t field => exact hs.checkType t field
  | existing t name => exact hs.existing t name
  | getRaw field row => exact hs.getRaw field row
  | hasValue field row => exact hs.hasValue field row
  | fieldsAt row => exact hs.fieldsAt row
  | getValue t field row => exact hs.getValue t field row
  | lookup listing t field x => exact hs.lookupIn listing t field x
  | framesAt track => exact hs.framesAt track
  | owningTrack frame => exact hs.owningTrack frame
  | viewGet row t field => exact hs.view_bind fun _ => hs.getValue t field row
  | viewHasValue row field => exact hs.view_bind fun _ => hs.hasValue field row
  | viewFields row => exact hs.view_bind fun _ => hs.fieldsAt row
  | viewFrames row => exact hs.view_bind fun _ => hs.framesAt row
  | selected host => exact congrArg (fun c => Except.ok (Cursors.selected c host)) h.cursors
  | resolve host =>
    simp only [Question.ask, Workspace.resolve, Cursors.resolve, h.cursors, hs.isLive]
  | get t a => simp only [Question.ask, Accessor.get, h.selectedRow, hs.getValue]
  | selectedHasValue t a => simp only [Question.ask, Accessor.hasValue, h.selectedRow, hs.hasValue]
  | missingFields schema track => exact hs.missingFields schema track
  | isComplete schema track => simp only [Question.ask, Schema.isComplete, hs.missingFields]
  | formatOf f track => exact hs.formatOf f track
  | findTrack k number => exact hs.findTrack k number
  | findFrame k track number => exact hs.findFrame k track number

end Workspace

namespace Call

variable {cs : Config × Config} {v w : Workspace}

/-- A call that is put together from others is blind to the settings. -/
theorem blind_perform {c : Call} (hc : ∀ e, c ≠ .edit e) :
    Blind (Workspace.Alike cs) c.perform := by
  open Workspace in
  cases c with
  | edit e => exact absurd rfl (hc e)
  | ask q => exact blind_query fun h => h.ask q
  | registerDescribed t d => exact blind_onStore (Accessor.blind_registerDescribed t d)
  | newHost => exact blind_newHost
  | select host row => exact blind_select host row
  | viewMutGet row t field =>
    refine blind_onStore ((Store.blind_viewMut row).bind fun v => ?_)
    exact Store.blind_query fun h => h.getValue t field v.row
  | viewMutSet row t field x =>
    refine blind_onStore ((Store.blind_viewMut row).bind fun v => ?_)
    exact (Store.blind_edit (e := .setValue t field v.row x) nofun).bind fun _ => .pure _
  | viewMutRemove row field =>
    refine blind_onStore ((Store.blind_viewMut row).bind fun v => ?_)
    exact Store.blind_edit (e := .removeAt field v.row) nofun
  | set t a x =>
    refine (blind_query fun h => h.selectedRow a).bind fun row => ?_
    exact blind_onStore (a.blind_setAt row x)
  | build name ds => exact blind_new fun s => s.blind_declareAll ds
  | newKw18 => exact blind_new Kw18Schema.blind_declare
  | newApix => exact blind_new ApixSchema.blind_declare
  | newSourceFormat => exact blind_new SourceFormatSchema.blind_declare
  | newScorableGeo => exact blind_new ScorableGeoSchema.blind_declare
  | duplicate schema => exact blind_duplicate schema
  | cloneKw18 k => exact (blind_duplicate k.schema).bind fun _ => .pure _
  | cloneScorableGeo g => exact (blind_duplicate g.schema).bind fun _ => .pure _
  | createTrack schema =>
    refine (blind_onStore (Store.blind_edit (e := .createRow) nofun)).bind fun track => ?_
    exact (blind_select schema.host (some track)).bind fun _ => .pure _
  | createFrame schema track =>
    refine (blind_onStore (Schema.blind_newFrame track)).bind fun frame => ?_
    exact (blind_select schema.host (some frame)).bind fun _ => .pure _
  | copyAll refs src dst => exact blind_onStore (Schema.blind_copyAll refs src dst)
  | removeAll refs row => exact blind_onStore (Schema.blind_removeAll refs row)
  | cloneTrack schema src => exact blind_onStore (schema.blind_cloneTrack src)
  | removeTrack track => exact blind_onStore (Schema.blind_removeTrack track)
  | stripTrack schema track => exact blind_onStore (schema.blind_stripTrack track)
  | recordSource f track format file =>
    exact blind_onStore (f.blind_recordSource track format file)
  | attach g tracks fallback => exact blind_onStore (g.blind_attach tracks fallback)

/-- The call deletes a row that was deleted before. -/
def DeletesAgain (c : Call) (s : Store) : Prop := ∃ row, c = .edit (.deleteRow row) ∧ s.Retired row

theorem sameResult_perform (h : Workspace.Alike cs v w) {c : Call} (hc : ¬ c.DeletesAgain v.store) :
    SameResult (Workspace.Alike cs) (c.perform v) (c.perform w) := by
  by_cases he : ∃ e, c = .edit e
  · obtain ⟨e, rfl⟩ := he
    refine h.onStore (h.store.perform ?_)
    rintro row rfl hr
    exact hc ⟨row, rfl, hr⟩
  · exact (blind_perform fun e hce => he ⟨e, hce⟩).result h

theorem answer_eq (h : Workspace.Alike cs v w) {c : Call} (hc : ¬ c.DeletesAgain v.store) :
    c.answer v = c.answer w := by
  have hsame := sameResult_perform h hc
  simp only [answer]
  generalize c.perform v = x at hsame ⊢
  generalize c.perform w = y at hsame ⊢
  cases hsame <;> rfl

/-- A second deletion is answered by the policy and changes nothing. -/
theorem perform_again {row : Row} (hr : v.store.Retired row) :
    perform (.edit (.deleteRow row)) v = match v.store.config.doubleDelete with
      | .ignore => .ok () v
      | .error => .error (.doubleDelete row) v := by
  simp only [perform, Edit.perform, Workspace.onStore, hr.deleteRow_apply]
  cases v.store.config.doubleDelete <;> rfl

theorem answer_again {row : Row} (hr : v.store.Retired row) :
    answer (.edit (.deleteRow row)) v = match v.store.config.doubleDelete with
      | .ignore => .ok ()
      | .error => .error (.doubleDelete row) := by
  rw [answer, perform_again hr]
  cases v.store.config.doubleDelete <;> rfl

theorem after_again {row : Row} (hr : v.store.Retired row) :
    after (.edit (.deleteRow row)) v = v := by
  rw [after, perform_again hr]
  cases v.store.config.doubleDelete <;> rfl

theorem alike_after (h : Workspace.Alike cs v w) (c : Call) :
    Workspace.Alike cs (c.after v) (c.after w) := by
  by_cases hc : c.DeletesAgain v.store
  · obtain ⟨row, rfl, hr⟩ := hc
    rw [after_again hr, after_again ((h.store.retired_iff row).mp hr)]
    exact h
  · have hsame := sameResult_perform h hc
    simp only [after]
    generalize c.perform v = x at hsame ⊢
    generalize c.perform w = y at hsame ⊢
    cases hsame with
    | ok a h' => exact h'
    | error e h' => exact h'

end Call

namespace Workspace

theorem Alike.run {cs : Config × Config} {v w : Workspace} (h : Alike cs v w) (calls : List Call) :
    Alike cs (v.run calls) (w.run calls) := by
  induction calls generalizing v w with
  | nil => exact h
  | cons c calls ih => exact ih (Call.alike_after h c)

/-- The room asked for beforehand and the policy for second deletions show in nothing but the answer
to a second deletion: after every sequence of calls the two stores show the same and the cursors
select the same, and every call but a second deletion has the same answer on both. -/
theorem settings_run {config other : Config}
    (h : config.validateCoordinates = other.validateCoordinates) (cursors : Cursors)
    (calls : List Call) :
    let v := run ⟨Store.withConfig config, cursors⟩ calls
    let w := run ⟨Store.withConfig other, cursors⟩ calls
    v.store.observe = w.store.observe ∧ v.cursors = w.cursors ∧
      (∀ c : Call, ¬ c.DeletesAgain v.store → c.answer v = c.answer w) ∧
      ∀ row, v.store.Retired row → w.store.Retired row ∧
        (Call.edit (.deleteRow row)).answer v = (match config.doubleDelete with
          | .ignore => .ok ()
          | .error => .error (.doubleDelete row)) ∧
        (Call.edit (.deleteRow row)).answer w = (match other.doubleDelete with
          | .ignore => .ok ()
          | .error => .error (.doubleDelete row)) := by
  intro v w
  have hnew : Alike (config, other) ⟨Store.withConfig config, cursors⟩
      ⟨Store.withConfig other, cursors⟩ :=
    ⟨Store.alike_withConfig h, rfl⟩
  have halike : Alike (config, other) v w := hnew.run calls
  refine ⟨halike.store.observe, halike.cursors, fun c hc => Call.answer_eq halike hc, ?_⟩
  intro row hr
  have hr' := (halike.store.retired_iff row).mp hr
  refine ⟨hr', ?_, ?_⟩
  · rw [Call.answer_again hr, halike.store.config_left]
  · rw [Call.answer_again hr', halike.store.config_right]

theorem settings_run_removed :
    let config : Config := { initialRowCapacity := 0, doubleDelete := .error }
    let other : Config := { initialRowCapacity := 1024, doubleDelete := .ignore }
    let calls : List Call :=
      [.edit .createRow, .edit .createRow, .edit (.addFrame ⟨1⟩ ⟨2⟩), .removeTrack ⟨1⟩]
    let v := run ⟨Store.withConfig config, .empty⟩ calls
    let w := run ⟨Store.withConfig other, .empty⟩ calls
    config.validateCoordinates = other.validateCoordinates ∧ v.store.Retired ⟨2⟩ ∧
      v.store.observe = w.store.observe ∧
      (Call.ask .stats).answer v = (Call.ask .stats).answer w ∧
      (Call.edit (.deleteRow ⟨2⟩)).answer v = .error (.doubleDelete ⟨2⟩) ∧
      (Call.edit (.deleteRow ⟨2⟩)).answer w = .ok () := by
  intro config other calls v w
  have hsame : config.validateCoordinates = other.validateCoordinates := rfl
  have hr : v.store.Retired ⟨2⟩ := ⟨by decide, by decide⟩
  obtain ⟨hobserve, -, hanswers, hagain⟩ :=
    settings_run hsame .empty calls
  have hstats := hanswers (.ask .stats) fun ⟨_, hc, _⟩ => nomatch hc
  exact ⟨hsame, hr, hobserve, hstats, (hagain ⟨2⟩ hr).2.1, (hagain ⟨2⟩ hr).2.2⟩

end Workspace
end TrackStore
