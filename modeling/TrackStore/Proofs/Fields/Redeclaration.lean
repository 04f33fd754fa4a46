import TrackStore.Proofs.Accessors
import TrackStore.Proofs.Fields.Identity
import TrackStore.Schema.Formats

/-! # Declaring fields again

A schema that was made once can be made again at any later time. Its fields are found registered, so
it has the same handles in the same containers and the store stays as it is; only the host is new.
-/
namespace TrackStore

def Schema.withHost (s : Schema) (host : Host) : Schema := { s with host }

def Kw18Schema.withHost (k : Kw18Schema) (host : Host) : Kw18Schema where
  schema := k.schema.withHost host
  externalId := k.externalId.bind host
  frameNumber := k.frameNumber.bind host
  timestamp := k.timestamp.bind host
  boundingBox := k.boundingBox.bind host
  worldX := k.worldX.bind host
  worldY := k.worldY.bind host

def ApixSchema.withHost (a : ApixSchema) (host : Host) : ApixSchema where
  schema := a.schema.withHost host
  latitude := a.latitude.bind host
  longitude := a.longitude.bind host

def SourceFormatSchema.withHost (f : SourceFormatSchema) (host : Host) : SourceFormatSchema where
  schema := f.schema.withHost host
  sourceFormat := f.sourceFormat.bind host
  sourceFile := f.sourceFile.bind host

def ScorableGeoSchema.withHost (g : ScorableGeoSchema) (host : Host) : ScorableGeoSchema where
  schema := g.schema.withHost host
  geoCoord := g.geoCoord.bind host

/-- A schema built from a list of declarations, with its accessors. -/
def Schema.builtWithHost (built : List (Sigma Accessor) × Schema) (host : Host) :
    List (Sigma Accessor) × Schema :=
  (built.1.map fun x => ⟨x.1, x.2.bind host⟩, built.2.withHost host)

namespace Store

/-- Where `first` succeeds it only registers fields, and in every later store `second` succeeds,
answers the same up to `f`, and changes nothing. -/
def Repeats {α β : Type} (f : α → β) (first : StoreM α) (second : StoreM β) : Prop :=
  ∀ s a s', s.WellFormed → first s = .ok a s' →
    (∃ es, s' = s.run es) ∧ ∀ es, second (s'.run es) = .ok (f a) (s'.run es)

namespace Repeats

variable {α β γ δ : Type}

theorem pure (f : α → β) (a : α) : Repeats f (pure a) (pure (f a)) := by
  intro s _ s' _ h
  cases h
  exact ⟨⟨[], rfl⟩, fun _ => rfl⟩

/-- What is later than the store after both is later than the store after the first. -/
theorem bind {f : α → β} {g : γ → δ} {first : StoreM α} {second : StoreM β} {next : α → StoreM γ}
    {next' : β → StoreM δ} (h : Repeats f first second)
    (hnext : ∀ a, Repeats g (next a) (next' (f a))) :
    Repeats g (first >>= next) (second >>= next') := by
  intro s b s' hs hrun
  simp only [Bind.bind, EStateM.bind] at hrun ⊢
  cases hfirst : first s with
  | error e u => simp [hfirst] at hrun
  | ok a u =>
    simp only [hfirst] at hrun
    obtain ⟨⟨es, hu⟩, hsecond⟩ := h s a u hs hfirst
    have hwell : u.WellFormed := by
      rw [hu]
      exact hs.run es
    obtain ⟨⟨fs, hs'⟩, hlast⟩ := hnext a u b s' hwell hrun
    refine ⟨⟨es ++ fs, by rw [hs', hu, run_append]⟩, fun later => ?_⟩
    have hlater : s'.run later = u.run (fs ++ later) := by rw [hs', run_append]
    rw [hlater, hsecond, ← hlater]
    exact hlast later

end Repeats

/-- A registration of a field that is there already. -/
theorem Declares.register {s : Store} (hs : s.WellFormed) {field : FieldId} {d : FieldDescriptor}
    (h : s.Declares field d.name d.type) : register d s = .ok field s := by
  obtain ⟨known, hknown, hname, htype⟩ := h
  have hlookup := (hs.registry.lookup_iff d.name field).mpr ⟨known, hknown, hname⟩
  exact hs.identifies.register_known d field known hlookup hknown htype

end Store

namespace Schema

open Store (Repeats)

theorem withHost_add (s : Schema) (container : Container) (r : FieldRef) (host : Host) :
    (s.withHost host).add container r = (s.add container r).withHost host := by
  cases container <;> rfl

theorem declare_repeats (s : Schema) (container : Container) (t : FieldType) (d : FieldDescriptor)
    (host : Host) :
    Repeats (fun made : Accessor t × Schema => (made.1.bind host, made.2.withHost host))
      (s.declare container t d) ((s.withHost host).declare container t d) := by
  rintro st ⟨a, s'⟩ st' hst h
  obtain ⟨hrun, hdeclares, -⟩ := Store.declare_declares hst h
  refine ⟨⟨_, hrun⟩, fun es => ?_⟩
  have hwell : (st'.run es).WellFormed := by
    rw [hrun, ← Store.run_append]
    exact hst.run _
  simp only [declare, Accessor.registerDescribed, bind, EStateM.bind] at h ⊢
  cases hfirst : Store.register { d with type := t } st with
  | error e u => simp [hfirst] at h
  | ok field u =>
    simp only [hfirst] at h
    cases h
    have hfield : Store.register { d with type := t } (st'.run es) = .ok field (st'.run es) :=
      (hdeclares.run es).register hwell
    simp only [hfield, withHost_add]
    rfl

theorem declareAll_repeats (s : Schema) (ds : List Declaration) (host : Host) :
    Repeats (builtWithHost · host) (s.declareAll ds) ((s.withHost host).declareAll ds) := by
  induction ds generalizing s with
  | nil => exact .pure (builtWithHost · host) ([], s)
  | cons d ds ih =>
    refine (s.declare_repeats d.container d.descriptor.type d.descriptor host).bind ?_
    rintro ⟨a, s₁⟩
    refine (ih s₁).bind ?_
    rintro ⟨accessors, s₂⟩
    exact .pure (builtWithHost · host) (⟨_, a⟩ :: accessors, s₂)

end Schema

section Schemas
open Store (Repeats)

variable (s : Schema) (host : Host)

theorem Kw18Schema.declare_repeats :
    Repeats (Kw18Schema.withHost · host) (declare s) (declare (s.withHost host)) := by
  refine (s.declare_repeats .track _ externalIdField host).bind fun ⟨externalId, s₁⟩ => ?_
  refine (s₁.declare_repeats .frame _ frameNumberField host).bind fun ⟨frameNumber, s₂⟩ => ?_
  refine (s₂.declare_repeats .frame _ timestampField host).bind fun ⟨timestamp, s₃⟩ => ?_
  refine (s₃.declare_repeats .frame _ boundingBoxField host).bind fun ⟨boundingBox, s₄⟩ => ?_
  refine (s₄.declare_repeats .frame _ worldXField host).bind fun ⟨worldX, s₅⟩ => ?_
  refine (s₅.declare_repeats .frame _ worldYField host).bind fun ⟨worldY, s₆⟩ => ?_
  exact .pure (Kw18Schema.withHost · host)
    { schema := s₆, externalId, frameNumber, timestamp, boundingBox, worldX, worldY }

theorem ApixSchema.declare_repeats :
    Repeats (ApixSchema.withHost · host) (declare s) (declare (s.withHost host)) := by
  refine (s.declare_repeats .frame _ latitudeField host).bind fun ⟨latitude, s₁⟩ => ?_
  refine (s₁.declare_repeats .frame _ longitudeField host).bind fun ⟨longitude, s₂⟩ => ?_
  exact .pure (ApixSchema.withHost · host) { schema := s₂, latitude, longitude }

theorem SourceFormatSchema.declare_repeats :
    Repeats (SourceFormatSchema.withHost · host) (declare s) (declare (s.withHost host)) := by
  refine (s.declare_repeats .track _ sourceFormatField host).bind fun ⟨sourceFormat, s₁⟩ => ?_
  refine (s₁.declare_repeats .track _ sourceFileField host).bind fun ⟨sourceFile, s₂⟩ => ?_
  exact .pure (SourceFormatSchema.withHost · host) { schema := s₂, sourceFormat, sourceFile }

theorem ScorableGeoSchema.declare_repeats :
    Repeats (ScorableGeoSchema.withHost · host) (declare s) (declare (s.withHost host)) := by
  refine (s.declare_repeats .frame _ geoCoordField host).bind fun ⟨geoCoord, s₁⟩ => ?_
  exact .pure (ScorableGeoSchema.withHost · host) { schema := s₁, geoCoord }

end Schemas

namespace Workspace

/-- Where a schema is made, it can be made again at any later time, whatever the cursors select
then: with the same fields and a new host, and the store stays as it is. -/
def Remakes {α : Type} (w : Workspace) (make : WorkspaceM α) (withHost : α → Host → α) : Prop :=
  ∀ made w', make w = .ok made w' → ∀ es cursors,
    make ⟨w'.store.run es, cursors⟩ =
      .ok (withHost made cursors.new.1) ⟨w'.store.run es, cursors.new.2⟩

theorem remakes_of_repeats {α : Type} {w : Workspace} {name : String} {declare : Schema → StoreM α}
    {withHost : α → Host → α} (hw : w.store.WellFormed)
    (h : ∀ s host, Store.Repeats (withHost · host) (declare s) (declare (s.withHost host))) :
    w.Remakes (do let s ← Schema.new name; onStore (declare s)) withHost := by
  intro made w' hmake es cursors
  simp only [bind, EStateM.bind, Schema.new, newHost_apply, pure, EStateM.pure, onStore] at hmake ⊢
  cases hfirst : declare ⟨name, w.cursors.new.1, [], []⟩ w.store with
  | error e u => simp [hfirst] at hmake
  | ok a u =>
    simp only [hfirst] at hmake
    cases hmake
    have hagain := (h _ cursors.new.1 _ _ _ hw hfirst).2 es
    simp only [Schema.withHost] at hagain
    simp only [hagain]

end Workspace

/-- The identity of fields is stable for the life of a store, and of a registry alone: descriptions
are only added, names, handles and columns stand for each other, a name decides what a registration
does, and so every schema that was made once is the same when it is made again. -/
theorem Store.field_identity_run (config : Config) (es : List Edit) (ds : List FieldDescriptor) :
    let s := (withConfig config).run es
    let r := Registry.empty.run ds
    (s.Identifies ∧
      ∀ fs, s.registry.descriptors.toList <+: (s.run fs).registry.descriptors.toList) ∧
    (r.Identifies ∧ ∀ more, r.descriptors.toList <+: (r.run more).descriptors.toList) ∧
    ∀ cursors, let w : Workspace := ⟨s, cursors⟩
      w.Remakes Kw18Schema.new Kw18Schema.withHost ∧
      w.Remakes ApixSchema.new ApixSchema.withHost ∧
      w.Remakes SourceFormatSchema.new SourceFormatSchema.withHost ∧
      w.Remakes ScorableGeoSchema.new ScorableGeoSchema.withHost ∧
      ∀ name declarations,
        w.Remakes (Schema.build name declarations) Schema.builtWithHost := by
  intro s r
  have hs : s.WellFormed := (wellFormed_withConfig config).run es
  have hr : r.WellFormed := Registry.wellFormed_empty.run ds
  refine ⟨⟨hs.identifies, s.descriptors_prefix_run⟩, ⟨hr.identifies, r.prefix_run⟩, ?_⟩
  intro cursors w
  refine ⟨?kw18, ?apix, ?sourceFormat, ?scorableGeo, fun name declarations => ?built⟩
  case kw18 => exact Workspace.remakes_of_repeats hs Kw18Schema.declare_repeats
  case apix => exact Workspace.remakes_of_repeats hs ApixSchema.declare_repeats
  case sourceFormat => exact Workspace.remakes_of_repeats hs SourceFormatSchema.declare_repeats
  case scorableGeo => exact Workspace.remakes_of_repeats hs ScorableGeoSchema.declare_repeats
  case built =>
    exact Workspace.remakes_of_repeats hs fun s host => s.declareAll_repeats declarations host

end TrackStore
