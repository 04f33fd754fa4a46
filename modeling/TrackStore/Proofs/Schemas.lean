import Mathlib.Data.List.Nodup
import TrackStore.Proofs.Fields.Redeclaration

/-! # Schemas of every kind

A schema is made by declaring its fields one by one for a new host. So it has no field twice in a
container, whatever was declared, and every accessor that comes with it is bound to its host.
-/
namespace TrackStore

/-- A schema with the accessors that its fields were declared with. -/
inductive AnySchema where
  | custom (accessors : List (Sigma Accessor)) (schema : Schema)
  | kw18 (k : Kw18Schema)
  | apix (a : ApixSchema)
  | sourceFormat (f : SourceFormatSchema)
  | scorableGeo (g : ScorableGeoSchema)

namespace AnySchema

def schema : AnySchema → Schema
  | custom _ s => s
  | kw18 k => k.schema
  | apix a => a.schema
  | sourceFormat f => f.schema
  | scorableGeo g => g.schema

def accessors : AnySchema → List (Sigma Accessor)
  | custom accessors _ => accessors
  | kw18 k => [⟨_, k.externalId⟩, ⟨_, k.frameNumber⟩, ⟨_, k.timestamp⟩, ⟨_, k.boundingBox⟩,
      ⟨_, k.worldX⟩, ⟨_, k.worldY⟩]
  | apix a => [⟨_, a.latitude⟩, ⟨_, a.longitude⟩]
  | sourceFormat f => [⟨_, f.sourceFormat⟩, ⟨_, f.sourceFile⟩]
  | scorableGeo g => [⟨_, g.geoCoord⟩]

/-- The same fields with another host, to which all accessors are bound. -/
def withHost : AnySchema → Host → AnySchema
  | custom accessors s, host =>
    custom (Schema.builtWithHost (accessors, s) host).1 (s.withHost host)
  | kw18 k, host => kw18 (k.withHost host)
  | apix a, host => apix (a.withHost host)
  | sourceFormat f, host => sourceFormat (f.withHost host)
  | scorableGeo g, host => scorableGeo (g.withHost host)

/-- The same fields with a new host. Two kinds of schemas copy themselves; of any other the program
duplicates the schema, and binds the accessors to the new host. -/
def clone : AnySchema → WorkspaceM AnySchema
  | kw18 k => return kw18 (← k.clone)
  | scorableGeo g => return scorableGeo (← g.clone)
  | x => return x.withHost (← x.schema.duplicate).host

theorem clone_apply (x : AnySchema) (w : Workspace) :
    x.clone w = .ok (x.withHost w.cursors.new.1) { w with cursors := w.cursors.new.2 } := by
  cases x <;> rfl

end AnySchema

/-- What a schema can be made as. -/
inductive SchemaKind where
  | custom (name : String) (ds : List Declaration)
  | kw18
  | apix
  | sourceFormat
  | scorableGeo

def SchemaKind.make : SchemaKind → WorkspaceM AnySchema
  | custom name ds => do
    let (accessors, s) ← Schema.build name ds
    return .custom accessors s
  | kw18 => return .kw18 (← Kw18Schema.new)
  | apix => return .apix (← ApixSchema.new)
  | sourceFormat => return .sourceFormat (← SourceFormatSchema.new)
  | scorableGeo => return .scorableGeo (← ScorableGeoSchema.new)

namespace Schema

theorem declare_eq_ok {s s' : Schema} {container : Container} {t : FieldType} {d : FieldDescriptor}
    {st st' : Store} {a : Accessor t} :
    s.declare container t d st = .ok (a, s') st' ↔
      ∃ b : Accessor t, Accessor.registerDescribed t d st = .ok b st' ∧ a = b.bind s.host ∧
        s' = s.add container b.ref := by
  rw [declare, Store.bind_eq_ok]
  constructor
  · rintro ⟨b, u, hregister, h⟩
    cases h
    exact ⟨b, hregister, rfl, rfl⟩
  · rintro ⟨b, hregister, rfl, rfl⟩
    exact ⟨b, st', hregister, rfl⟩

/-- The second schema comes from the first by declarations in some stores, which gave these
accessors. -/
inductive Grows : Schema → List (Sigma Accessor) → Schema → Prop
  | refl (s) : Grows s [] s
  | declare {s s₁ s₂ container t d st st'} {a : Accessor t} {accessors} :
    s.declare container t d st = .ok (a, s₁) st' → Grows s₁ accessors s₂ →
      Grows s (⟨t, a⟩ :: accessors) s₂

/-- What was declared has a host from the schema that it was declared for. -/
theorem Grows.bound {s s' : Schema} {accessors : List (Sigma Accessor)} (h : s.Grows accessors s') :
    s'.host = s.host ∧ ∀ y ∈ accessors, y.2.host = some s.host := by
  induction h with
  | refl s => exact ⟨rfl, nofun⟩
  | @declare s s₁ s₂ container t d st st' a accessors h _ ih =>
    obtain ⟨b, -, rfl, rfl⟩ := declare_eq_ok.mp h
    have hhost : (s.add container b.ref).host = s.host := by cases container <;> rfl
    rw [hhost] at ih
    exact ⟨ih.1, List.forall_mem_cons.mpr ⟨rfl, ih.2⟩⟩

theorem declareAll_grows {s s' : Schema} {ds : List Declaration} {st st' : Store}
    {accessors : List (Sigma Accessor)} (h : s.declareAll ds st = .ok (accessors, s') st') :
    s.Grows accessors s' := by
  induction ds generalizing s st accessors with
  | nil =>
    cases h
    exact .refl _
  | cons d ds ih =>
    obtain ⟨⟨a, s₁⟩, st₁, hfirst, h⟩ := Store.bind_eq_ok.mp h
    obtain ⟨⟨others, s₂⟩, st₂, hrest, h⟩ := Store.bind_eq_ok.mp h
    cases h
    exact .declare hfirst (ih hrest)

end Schema

section Formats
variable {s : Schema} {st st' : Store}

theorem Kw18Schema.declare_grows {k : Kw18Schema} (h : declare s st = .ok k st') :
    s.Grows (AnySchema.kw18 k).accessors k.schema := by
  obtain ⟨⟨_, _⟩, _, h₁, h⟩ := Store.bind_eq_ok.mp h
  obtain ⟨⟨_, _⟩, _, h₂, h⟩ := Store.bind_eq_ok.mp h
  obtain ⟨⟨_, _⟩, _, h₃, h⟩ := Store.bind_eq_ok.mp h
  obtain ⟨⟨_, _⟩, _, h₄, h⟩ := Store.bind_eq_ok.mp h
  obtain ⟨⟨_, _⟩, _, h₅, h⟩ := Store.bind_eq_ok.mp h
  obtain ⟨⟨_, _⟩, _, h₆, h⟩ := Store.bind_eq_ok.mp h
  cases h
  exact .declare h₁ (.declare h₂ (.declare h₃ (.declare h₄ (.declare h₅ (.declare h₆ (.refl _))))))

theorem ApixSchema.declare_grows {a : ApixSchema} (h : declare s st = .ok a st') :
    s.Grows (AnySchema.apix a).accessors a.schema := by
  obtain ⟨⟨_, _⟩, _, h₁, h⟩ := Store.bind_eq_ok.mp h
  obtain ⟨⟨_, _⟩, _, h₂, h⟩ := Store.bind_eq_ok.mp h
  cases h
  exact .declare h₁ (.declare h₂ (.refl _))

theorem SourceFormatSchema.declare_grows {f : SourceFormatSchema} (h : declare s st = .ok f st') :
    s.Grows (AnySchema.sourceFormat f).accessors f.schema := by
  obtain ⟨⟨_, _⟩, _, h₁, h⟩ := Store.bind_eq_ok.mp h
  obtain ⟨⟨_, _⟩, _, h₂, h⟩ := Store.bind_eq_ok.mp h
  cases h
  exact .declare h₁ (.declare h₂ (.refl _))

theorem ScorableGeoSchema.declare_grows {g : ScorableGeoSchema} (h : declare s st = .ok g st') :
    s.Grows (AnySchema.scorableGeo g).accessors g.schema := by
  obtain ⟨⟨_, _⟩, _, h₁, h⟩ := Store.bind_eq_ok.mp h
  cases h
  exact .declare h₁ (.refl _)

end Formats

namespace Workspace

variable {α β : Type} {w : Workspace}

/-- Whether or not the work succeeds it leaves these cursors, and what it answers is as said. -/
def Leaves (work : WorkspaceM α) (w : Workspace) (c : Cursors) (P : α → Prop) : Prop :=
  match work w with
  | .ok a v => v.cursors = c ∧ P a
  | .error _ v => v.cursors = c

theorem leaves_newHost (w : Workspace) :
    Leaves newHost w w.cursors.new.2 (· = w.cursors.new.1) := ⟨rfl, rfl⟩

theorem leaves_onStore {work : StoreM α} {P : α → Prop}
    (h : ∀ a t, work w.store = .ok a t → P a) : Leaves (onStore work) w w.cursors P := by
  unfold Leaves onStore
  cases hwork : work w.store with
  | ok a t => exact ⟨rfl, h a t hwork⟩
  | error e t => exact rfl

theorem Leaves.map {work : WorkspaceM α} {c : Cursors} {P : α → Prop} {Q : β → Prop} {f : α → β}
    (h : Leaves work w c P) (hf : ∀ a, P a → Q (f a)) : Leaves (do return f (← work)) w c Q := by
  simp only [Leaves, bind, EStateM.bind] at h ⊢
  cases hwork : work w with
  | ok a v =>
    rw [hwork] at h
    exact ⟨h.1, hf a h.2⟩
  | error e v =>
    rw [hwork] at h
    exact h

/-- A schema for a new host, and the fields that are declared for it. -/
theorem leaves_made {declare : Schema → StoreM α} {P : α → Prop} (name : String)
    (h : ∀ a t, declare ⟨name, w.cursors.new.1, [], []⟩ w.store = .ok a t → P a) :
    Leaves (do let s ← Schema.new name; onStore (declare s)) w w.cursors.new.2 P :=
  leaves_onStore (w := ⟨w.store, w.cursors.new.2⟩) h

end Workspace

/-- The schema was new in the workspace, and has the fields that were declared for it since. -/
def AnySchema.MadeIn (x : AnySchema) (w : Workspace) : Prop :=
  ∃ name s w', Schema.new name w = .ok s w' ∧ s.Grows x.accessors x.schema

/-- The schema has the host, and all its accessors are bound to it. -/
def AnySchema.BoundTo (x : AnySchema) (host : Host) : Prop :=
  x.schema.host = host ∧ ∀ y ∈ x.accessors, y.2.host = some host

theorem AnySchema.MadeIn.boundTo {x : AnySchema} {w : Workspace} (h : x.MadeIn w) :
    x.BoundTo w.cursors.new.1 := by
  obtain ⟨name, s, w', hnew, hgrows⟩ := h
  cases hnew
  exact hgrows.bound

theorem AnySchema.boundTo_withHost (x : AnySchema) (host : Host) :
    (x.withHost host).BoundTo host := by
  cases x with
  | custom accessors s =>
    refine ⟨rfl, fun y hy => ?_⟩
    obtain ⟨z, -, rfl⟩ := List.mem_map.mp hy
    rfl
  | _ => exact ⟨rfl, by simp [withHost, accessors, Kw18Schema.withHost, ApixSchema.withHost,
      SourceFormatSchema.withHost, ScorableGeoSchema.withHost, Accessor.bind]⟩

/-- A schema of any kind gets a new cursor, also where a field is refused. -/
theorem SchemaKind.leaves_make (kind : SchemaKind) (w : Workspace) :
    Workspace.Leaves kind.make w w.cursors.new.2 (·.MadeIn w) := by
  have made {name : String} {accessors : List (Sigma Accessor)} {s : Schema}
      (h : Schema.Grows ⟨name, w.cursors.new.1, [], []⟩ accessors s) :
      ∃ name s₀ w', Schema.new name w = .ok s₀ w' ∧ s₀.Grows accessors s :=
    ⟨name, _, _, rfl, h⟩
  cases kind with
  | custom name ds =>
    refine (Workspace.leaves_made name fun _ _ h => ?_).map fun _ h => h
    exact made (Schema.declareAll_grows h)
  | kw18 =>
    exact (Workspace.leaves_made _ fun _ _ h => made (Kw18Schema.declare_grows h)).map fun _ h => h
  | apix =>
    exact (Workspace.leaves_made _ fun _ _ h => made (ApixSchema.declare_grows h)).map fun _ h => h
  | sourceFormat =>
    exact (Workspace.leaves_made _ fun _ _ h => made (SourceFormatSchema.declare_grows h)).map
      fun _ h => h
  | scorableGeo =>
    exact (Workspace.leaves_made _ fun _ _ h => made (ScorableGeoSchema.declare_grows h)).map
      fun _ h => h

theorem AnySchema.leaves_clone (x : AnySchema) (w : Workspace) :
    Workspace.Leaves x.clone w w.cursors.new.2 (·.BoundTo w.cursors.new.1) := by
  rw [Workspace.Leaves, clone_apply]
  exact ⟨rfl, x.boundTo_withHost _⟩

namespace Schema

/-- A schema that declared its fields one by one, in any stores, or was copied from one that did. -/
inductive Made : Schema → Prop
  | new {name s w w'} : Schema.new name w = .ok s w' → Made s
  | declare {s s' container t d st st'} {a : Accessor t} : Made s →
    s.declare container t d st = .ok (a, s') st' → Made s'
  | duplicate {s s' w w'} : Made s → s.duplicate w = .ok s' w' → Made s'

theorem Made.grows {s s' : Schema} {accessors : List (Sigma Accessor)} (hs : s.Made)
    (h : s.Grows accessors s') : s'.Made := by
  induction h with
  | refl s => exact hs
  | declare h _ ih => exact ih (hs.declare h)

theorem lists_eq_true (refs : List FieldRef) (field : FieldId) :
    lists refs field = true ↔ field ∈ refs.map (·.field) := by
  simp [lists]

theorem nodup_adjoin {refs : List FieldRef} (h : (refs.map (·.field)).Nodup) (r : FieldRef) :
    ((adjoin refs r).map (·.field)).Nodup := by
  unfold adjoin
  split
  next => exact h
  next hr =>
    rw [lists_eq_true] at hr
    simpa using h.concat hr

/-- A field that is declared again is not listed again. -/
theorem Made.nodup {s : Schema} (h : s.Made) (container : Container) :
    ((s.fields container).map (·.field)).Nodup := by
  induction h with
  | new h =>
    cases h
    cases container <;> exact List.nodup_nil
  | @declare s s' place t d st st' a _ h ih =>
    obtain ⟨b, -, -, rfl⟩ := declare_eq_ok.mp h
    cases place <;> cases container
    · exact nodup_adjoin ih b.ref
    · exact ih
    · exact ih
    · exact nodup_adjoin ih b.ref
  | duplicate _ h ih =>
    cases h
    exact ih

end Schema

theorem SchemaKind.made {kind : SchemaKind} {w w' : Workspace} {x : AnySchema}
    (h : kind.make w = .ok x w') : x.schema.Made := by
  have hleaves := kind.leaves_make w
  rw [Workspace.Leaves, h] at hleaves
  obtain ⟨name, s, v, hnew, hgrows⟩ := hleaves.2
  exact (Schema.Made.new hnew).grows hgrows

/-- So a copy has no field twice in a container either. -/
theorem AnySchema.made_clone {x y : AnySchema} {w w' : Workspace} (hx : x.schema.Made)
    (h : x.clone w = .ok y w') : y.schema.Made := by
  rw [clone_apply] at h
  cases h
  have hcopy : x.schema.duplicate w = .ok (x.withHost w.cursors.new.1).schema
      { w with cursors := w.cursors.new.2 } := by
    cases x <;> rfl
  exact hx.duplicate hcopy

end TrackStore
