import TrackStore.Proofs.Fields.Declaration
import TrackStore.Proofs.Schemas

/-! # Schemas that are built

A schema is built by declaring its fields in order, up to the first conflict. The registry knows a
field by its name and a container by its handle, which comes to the same, since names and handles
stand for each other. So a container, too, keeps the first declaration of each name.
-/
namespace TrackStore

def FieldDescriptor.label (d : FieldDescriptor) : String × FieldType := (d.name, d.type)

def FieldRef.label (r : FieldRef) : String × FieldType := (r.name, r.type)

/-- What is declared for a container. -/
def Declaration.forContainer (container : Container) (ds : List Declaration) :
    List FieldDescriptor :=
  (ds.filter (·.container = container)).map (·.descriptor)

open FieldDescriptor (firsts Consistent)

namespace Schema

/-- The second schema is the first with fields that were declared for it. -/
structure Gains (schema : Schema) (ds : List Declaration) (schema' : Schema) : Prop where
  name : schema'.name = schema.name
  host : schema'.host = schema.host
  fields : ∀ container, (schema'.fields container).map FieldRef.label =
    (schema.fields container).map FieldRef.label ++
      (firsts ((schema.fields container).map (·.name)) (Declaration.forContainer container ds)).map
        FieldDescriptor.label

/-- Every listed field stands in the store as it is listed. -/
def Stands (schema : Schema) (s : Store) : Prop :=
  ∀ container, ∀ r ∈ schema.fields container, s.Declares r.field r.name r.type

variable {schema schema' schema'' : Schema} {ds es : List Declaration} {d : Declaration}
  {s t : Store} {refs : List FieldRef} {r : FieldRef}

theorem Gains.names (h : schema.Gains ds schema') (container : Container) :
    (schema'.fields container).map (·.name) = (schema.fields container).map (·.name) ++
      (firsts ((schema.fields container).map (·.name))
        (Declaration.forContainer container ds)).map (·.name) := by
  have hnames := congrArg (List.map Prod.fst) (h.fields container)
  simp only [List.map_append, List.map_map] at hnames
  exact hnames

theorem Gains.trans (h : schema.Gains ds schema') (h' : schema'.Gains es schema'') :
    schema.Gains (ds ++ es) schema'' where
  name := h'.name.trans h.name
  host := h'.host.trans h.host
  fields container := by
    have happend : Declaration.forContainer container (ds ++ es) =
        Declaration.forContainer container ds ++ Declaration.forContainer container es := by
      simp [Declaration.forContainer]
    rw [h'.fields, h.fields, h.names, happend, FieldDescriptor.firsts_append, List.map_append,
      List.append_assoc]

/-- In a store where the fields stand as they are listed, a handle is listed if its name is. -/
theorem lists_iff_mem_names (hs : s.WellFormed)
    (hrefs : ∀ q ∈ refs, s.Declares q.field q.name q.type) (hr : s.Declares r.field r.name r.type) :
    lists refs r.field = true ↔ r.name ∈ refs.map (·.name) := by
  rw [lists_eq_true, List.mem_map, List.mem_map]
  have hlookup := (hs.declares_iff.mp hr).1
  refine exists_congr fun q => and_congr_right fun hq => ?_
  have hqlookup := (hs.declares_iff.mp (hrefs q hq)).1
  constructor
  · intro hfield
    obtain ⟨d, hd, hname, -⟩ := hr
    obtain ⟨k, hk, hqname, -⟩ := hrefs q hq
    rw [hfield, hd] at hk
    cases hk
    exact hqname.symm.trans hname
  · intro hname
    rw [hname, hlookup] at hqlookup
    exact (Option.some.inj hqlookup).symm

theorem label_adjoin (hs : s.WellFormed) (hrefs : ∀ q ∈ refs, s.Declares q.field q.name q.type)
    (hr : s.Declares r.field r.name r.type) {d : FieldDescriptor} (hd : d.label = r.label) :
    (adjoin refs r).map FieldRef.label =
      refs.map FieldRef.label ++ (firsts (refs.map (·.name)) [d]).map FieldDescriptor.label := by
  have hname : d.name = r.name := congrArg Prod.fst hd
  rw [adjoin]
  by_cases hlisted : lists refs r.field = true
  · have hmem := (lists_iff_mem_names hs hrefs hr).mp hlisted
    simp only [if_pos hlisted, firsts, hname, if_pos hmem, List.map_nil, List.append_nil]
  · have hmem := mt (lists_iff_mem_names hs hrefs hr).mpr hlisted
    simp only [if_neg hlisted, firsts, hname, if_neg hmem, List.map_append, List.map_singleton, hd]

theorem mem_adjoin {q : FieldRef} (h : q ∈ adjoin refs r) : q ∈ refs ∨ q = r := by
  unfold adjoin at h
  split at h
  · exact .inl h
  · simpa using h

theorem fields_add (schema : Schema) (container place : Container) (r : FieldRef) :
    (schema.add place r).fields container =
      if place = container then adjoin (schema.fields container) r
      else schema.fields container := by
  cases container <;> cases place <;> rfl

theorem Stands.add (h : schema.Stands s) (hr : s.Declares r.field r.name r.type)
    (place : Container) : (schema.add place r).Stands s := by
  intro container q hq
  rw [fields_add] at hq
  split at hq
  · rcases mem_adjoin hq with hold | rfl
    · exact h container q hold
    · exact hr
  · exact h container q hq

theorem gains_add (hs : s.WellFormed) (h : schema.Stands s)
    (hr : s.Declares r.field r.name r.type) (hd : d.descriptor.label = r.label) :
    schema.Gains [d] (schema.add d.container r) where
  name := by cases d.container <;> rfl
  host := by cases d.container <;> rfl
  fields container := by
    rw [fields_add]
    by_cases hplace : d.container = container
    · have hadded : Declaration.forContainer container [d] = [d.descriptor] := by
        simp [Declaration.forContainer, hplace]
      rw [if_pos hplace, hadded, label_adjoin hs (h container) hr hd]
    · simp [Declaration.forContainer, hplace, firsts]

theorem Stands.run (h : schema.Stands s) (es : List Edit) : schema.Stands (s.run es) :=
  fun container r hr => (h container r hr).run es

/-- One field more, in the store and in its container. -/
theorem declare_of_consistent (hs : s.WellFormed) (hold : schema.Stands s)
    (hd : ¬ d.descriptor.Conflicts s.registry.descriptors.toList)
    (hroom : s.HasRoom [d.descriptor]) :
    ∃ a schema' t,
      schema.declare d.container d.descriptor.type d.descriptor s = .ok (a, schema') t ∧
      s.Declared [d.descriptor] t ∧ schema.Gains [d] schema' ∧ schema'.Stands t ∧
      a.ref.label = d.descriptor.label := by
  obtain ⟨field, t, hregister, hdeclared⟩ := hs.register_of_consistent hd hroom
  obtain ⟨hrun, hdeclares⟩ := Store.register_declares hs hregister
  let b : Accessor d.descriptor.type := { field, name := d.descriptor.name }
  have hb : Accessor.registerDescribed d.descriptor.type d.descriptor s = .ok b t := by
    simp only [Accessor.registerDescribed, bind, EStateM.bind, hregister]
    rfl
  have hlater : schema.Stands t := by
    rw [hrun]
    exact hold.run _
  have hgains := gains_add (r := b.ref) (d := d) hdeclared.wellFormed hlater hdeclares rfl
  exact ⟨b.bind schema.host, schema.add d.container b.ref, t,
    declare_eq_ok.mpr ⟨b, hb, rfl, rfl⟩, hdeclared, hgains, hlater.add hdeclares _, rfl⟩

/-- Consistent declarations succeed one after the other, each with an accessor. -/
theorem declareAll_of_consistent (hs : s.WellFormed) (hold : schema.Stands s)
    (hds : Consistent s.registry.descriptors.toList (ds.map (·.descriptor)))
    (hroom : s.HasRoom (ds.map (·.descriptor))) :
    ∃ accessors schema' t, schema.declareAll ds s = .ok (accessors, schema') t ∧
      s.Declared (ds.map (·.descriptor)) t ∧ schema.Gains ds schema' ∧ schema'.Stands t ∧
      accessors.map (·.2.ref.label) = ds.map (·.descriptor.label) := by
  induction ds generalizing schema s with
  | nil =>
    have hgains : schema.Gains [] schema :=
      ⟨rfl, rfl, fun _ => by simp [Declaration.forContainer, firsts]⟩
    exact ⟨[], schema, s, rfl, .refl hs, hgains, hold, rfl⟩
  | cons d ds ih =>
    obtain ⟨hd, hrest⟩ := hds
    have hsplit : s.HasRoom ([d.descriptor] ++ ds.map (·.descriptor)) := hroom
    obtain ⟨a, schema₁, t, hfirst, hdeclared, hgains, hstands, hlabel⟩ :=
      declare_of_consistent hs hold hd hsplit.left
    obtain ⟨accessors, schema₂, u, hothers, hdeclared', hgains', hstands', hlabels⟩ :=
      ih hdeclared.wellFormed hstands (hdeclared.consistent hrest) (hsplit.right hdeclared)
    have hall : schema.declareAll (d :: ds) s = .ok (⟨_, a⟩ :: accessors, schema₂) u := by
      simp only [declareAll, bind, EStateM.bind, hfirst, hothers]
      rfl
    refine ⟨_, schema₂, u, hall, hdeclared.trans hdeclared', hgains.trans hgains', hstands', ?_⟩
    rw [List.map_cons, List.map_cons, hlabel, hlabels]

/-- What has an accessor of its name and type is a field of the store. -/
theorem exists_declares_of_mem {accessors : List (Sigma Accessor)}
    (haccessors : ∀ x ∈ accessors, t.Declares x.2.field x.2.name x.1)
    (hlabels : accessors.map (·.2.ref.label) = ds.map (·.descriptor.label)) :
    ∀ e ∈ ds.map (·.descriptor), ∃ field, t.Declares field e.name e.type := by
  intro e he
  obtain ⟨d, hd, rfl⟩ := List.mem_map.mp he
  have hmem : d.descriptor.label ∈ accessors.map (·.2.ref.label) := by
    rw [hlabels]
    exact List.mem_map.mpr ⟨d, hd, rfl⟩
  obtain ⟨x, hx, hlabel⟩ := List.mem_map.mp hmem
  obtain ⟨hname, htype⟩ := Prod.mk.inj hlabel
  have hdeclares : t.Declares x.2.field x.2.ref.name x.2.ref.type := haccessors x hx
  rw [hname, htype] at hdeclares
  exact ⟨x.2.field, hdeclares⟩

/-- A declaration that conflicts changes nothing. -/
theorem declare_of_conflict (hs : s.WellFormed) (schema : Schema)
    (hd : d.descriptor.Conflicts s.registry.descriptors.toList) :
    ∃ k ∈ s.registry.descriptors.toList, k.name = d.descriptor.name ∧ k.type ≠ d.descriptor.type ∧
      schema.declare d.container d.descriptor.type d.descriptor s =
        .error (.typeConflict d.descriptor.name k.type.name d.descriptor.type.name) s := by
  obtain ⟨k, hk, hname, htype, hregister⟩ := hs.register_of_conflict hd
  refine ⟨k, hk, hname, htype, ?_⟩
  simp only [declare, Accessor.registerDescribed, bind, EStateM.bind, hregister]

theorem declareAll_append (schema : Schema) (ds es : List Declaration) (s : Store) :
    schema.declareAll (ds ++ es) s = match schema.declareAll ds s with
      | .ok (accessors, schema') t =>
        match schema'.declareAll es t with
        | .ok (others, schema'') u => .ok (accessors ++ others, schema'') u
        | .error e u => .error e u
      | .error e t => .error e t := by
  induction ds generalizing schema s with
  | nil =>
    simp only [List.nil_append, declareAll, pure, EStateM.pure]
    cases schema.declareAll es s <;> rfl
  | cons d ds ih =>
    simp only [List.cons_append, declareAll, bind, EStateM.bind]
    cases schema.declare d.container d.descriptor.type d.descriptor s with
    | error e t => rfl
    | ok first t =>
      obtain ⟨a, schema₁⟩ := first
      simp only [ih]
      cases schema₁.declareAll ds t with
      | error e u => rfl
      | ok made u =>
        obtain ⟨accessors, schema₂⟩ := made
        simp only [pure, EStateM.pure]
        cases schema₂.declareAll es u <;> rfl

/-- The schema lists what was declared for it, the store has each field as it is listed, and every
declaration has its accessor. -/
structure Built (schema : Schema) (accessors : List (Sigma Accessor)) (ds : List Declaration)
    (s : Store) : Prop where
  fields : ∀ container, (schema.fields container).map FieldRef.label =
    (firsts [] (Declaration.forContainer container ds)).map FieldDescriptor.label
  handles : ∀ container, ((schema.fields container).map (·.field)).Nodup
  lookup : ∀ container, ∀ r ∈ schema.fields container, s.lookupField r.name = some r.field
  type : ∀ container, ∀ r ∈ schema.fields container,
    ∃ d, s.describeField r.field = .ok d ∧ d.type = r.type
  labels : accessors.map (·.2.ref.label) = ds.map (·.descriptor.label)
  bound : ∀ x ∈ accessors, s.lookupField x.2.name = some x.2.field ∧ x.2.host = some schema.host

variable {w : Workspace}

theorem build_apply (name : String) (ds : List Declaration) (w : Workspace) :
    build name ds w =
      match declareAll ⟨name, w.cursors.new.1, [], []⟩ ds w.store with
      | .ok made t => .ok made ⟨t, w.cursors.new.2⟩
      | .error e t => .error e ⟨t, w.cursors.new.2⟩ := by
  simp only [build, new, bind, EStateM.bind, pure, EStateM.pure, Workspace.newHost_apply,
    Workspace.onStore]
  cases declareAll ⟨name, w.cursors.new.1, [], []⟩ ds w.store <;> rfl

/-- A schema is built unless a declaration conflicts, and the first that does is the error. Either
way the declarations up to there are registered, and nothing else changes. -/
theorem build_registers (hw : w.store.Reachable) (name : String) (ds : List Declaration) :
    (Consistent w.store.registry.descriptors.toList (ds.map (·.descriptor)) →
      w.store.HasRoom (ds.map (·.descriptor)) →
        ∃ accessors schema t, build name ds w = .ok (accessors, schema) ⟨t, w.cursors.new.2⟩ ∧
          w.store.Declared (ds.map (·.descriptor)) t ∧ schema.name = name ∧
          schema.host = w.cursors.new.1 ∧ schema.Built accessors ds t) ∧
    ∀ before d after, ds = before ++ d :: after →
      Consistent w.store.registry.descriptors.toList (before.map (·.descriptor)) →
      d.descriptor.Conflicts
        (w.store.registry.descriptors.toList ++ before.map (·.descriptor)) →
      w.store.HasRoom (before.map (·.descriptor)) →
        ∃ k t, build name ds w =
            .error (.typeConflict d.descriptor.name k.type.name d.descriptor.type.name)
              ⟨t, w.cursors.new.2⟩ ∧
          k ∈ t.registry.descriptors.toList ∧ k.name = d.descriptor.name ∧
          k.type ≠ d.descriptor.type ∧ w.store.Declared (before.map (·.descriptor)) t := by
  have hs := hw.wellFormed
  have hnone : Schema.Stands ⟨name, w.cursors.new.1, [], []⟩ w.store := by
    intro container r hr
    cases container <;> cases hr
  constructor
  · intro hds hroom
    obtain ⟨accessors, schema, t, hall, hdeclared, hgains, hstands, hlabels⟩ :=
      declareAll_of_consistent hs hnone hds hroom
    have hnew : Schema.new name w =
        .ok ⟨name, w.cursors.new.1, [], []⟩ ⟨w.store, w.cursors.new.2⟩ := rfl
    have hgrows := declareAll_grows hall
    have hmade : schema.Made := (Made.new hnew).grows hgrows
    obtain ⟨-, -, haccessors⟩ := Store.declareAll_declares hs hall
    have hbuild : build name ds w = .ok (accessors, schema) ⟨t, w.cursors.new.2⟩ := by
      rw [build_apply, hall]
    refine ⟨accessors, schema, t, hbuild, hdeclared, hgains.name, hgains.host, ?_⟩
    constructor
    case fields =>
      intro container
      have hempty : (⟨name, w.cursors.new.1, [], []⟩ : Schema).fields container = [] := by
        cases container <;> rfl
      rw [hgains.fields, hempty]
      rfl
    case handles => exact hmade.nodup
    case lookup =>
      exact fun container r hr => (hdeclared.wellFormed.declares_iff.mp (hstands container r hr)).1
    case type =>
      exact fun container r hr => (hdeclared.wellFormed.declares_iff.mp (hstands container r hr)).2
    case labels => exact hlabels
    case bound =>
      intro x hx
      rw [hgrows.bound.1]
      exact ⟨(hdeclared.wellFormed.declares_iff.mp (haccessors x hx)).1, hgrows.bound.2 x hx⟩
  · rintro before d after rfl hbefore hconflict hroom
    obtain ⟨accessors, schema, t, hall, hdeclared, -, -, hlabels⟩ :=
      declareAll_of_consistent hs hnone hbefore hroom
    obtain ⟨-, -, haccessors⟩ := Store.declareAll_declares hs hall
    have hcomes := hdeclared.conflicts (exists_declares_of_mem haccessors hlabels) hconflict
    obtain ⟨k, hk, hname, htype, hstop⟩ := declare_of_conflict hdeclared.wellFormed schema hcomes
    refine ⟨k, t, ?_, hk, hname, htype, hdeclared⟩
    rw [build_apply, declareAll_append, hall]
    simp only [declareAll, bind, EStateM.bind, hstop]

theorem build_registers_repeats :
    let id : FieldDescriptor := { name := "id", type := .unsigned .w64 }
    let flag : FieldDescriptor := { name := "flag", type := .bool, role := .wellKnown }
    let mark : FieldDescriptor := { name := "mark", type := .bool }
    let ds : List Declaration := [⟨.track, flag⟩, ⟨.frame, { id with description := "again" }⟩,
      ⟨.track, mark⟩, ⟨.frame, { flag with role := .adHoc }⟩, ⟨.track, flag⟩]
    let w : Workspace := ⟨(Store.withConfig {}).run [.register id], .empty⟩
    (∃ accessors schema t, build "marks" ds w = .ok (accessors, schema) ⟨t, w.cursors.new.2⟩ ∧
      t.registry.descriptors.toList = [id, flag, mark] ∧
      schema.track.map FieldRef.label = [flag.label, mark.label] ∧
      schema.frame.map FieldRef.label = [id.label, flag.label]) ∧
    ∃ t, build "marks" (ds ++ [⟨.frame, { mark with type := .text }⟩, ⟨.frame, mark⟩]) w =
        .error (.typeConflict "mark" "bool" "alloc::string::String") ⟨t, w.cursors.new.2⟩ ∧
      t.registry.descriptors.toList = [id, flag, mark] := by
  intro id flag mark ds w
  have hw : w.store.Reachable := ⟨_, _, rfl⟩
  constructor
  · obtain ⟨accessors, schema, t, hbuild, hdeclared, -, -, hbuilt⟩ :=
      (build_registers hw "marks" ds).1 (by decide +kernel) (by decide +kernel)
    refine ⟨accessors, schema, t, hbuild, ?_, ?_, ?_⟩
    · rw [hdeclared.descriptors]
      decide +kernel
    · rw [show schema.track = schema.fields .track from rfl, hbuilt.fields]
      decide +kernel
    · rw [show schema.frame = schema.fields .frame from rfl, hbuilt.fields]
      decide +kernel
  · obtain ⟨k, t, hbuild, hk, hname, htype, hdeclared⟩ :=
      (build_registers hw "marks" _).2 ds ⟨.frame, { mark with type := .text }⟩ [⟨.frame, mark⟩] rfl
        (by decide +kernel) (by decide +kernel) (by decide +kernel)
    have hdescriptors : t.registry.descriptors.toList = [id, flag, mark] := by
      rw [hdeclared.descriptors]
      decide +kernel
    rw [hdescriptors] at hk
    have hmark : ∀ k ∈ [id, flag, mark], k.name = "mark" → k.type = .bool := by decide
    rw [hmark k hk hname] at hbuild
    exact ⟨t, hbuild, hdescriptors⟩

end Schema
end TrackStore
