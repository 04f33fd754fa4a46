import TrackStore.Proofs.Contents
import TrackStore.Schema.Basic

/-! # Where accessors come from

Accessors come from registering a field, alone or under a schema, and from asking for a field that
is registered. All ways give the handle of a field with the name and the type of the accessor, and
change the store by registrations only.
-/
namespace TrackStore

/-- The ways to an accessor of a field: the store before, the accessor, the store after. -/
inductive Obtains (t : FieldType) (name : String) : Store → Accessor t → Store → Prop
  | register {s a s'} : Accessor.register t name s = .ok a s' → Obtains t name s a s'
  | registerDescribed {s a s'} (d : FieldDescriptor) : d.name = name →
    Accessor.registerDescribed t d s = .ok a s' → Obtains t name s a s'
  | existing {s a} : Accessor.existing t s name = .ok (some a) → Obtains t name s a s
  | declare {s a s'} (schema schema' : Schema) (container : Container) (d : FieldDescriptor) :
    d.name = name → schema.declare container t d s = .ok (a, schema') s' → Obtains t name s a s'
  | declareAll {s a s'} (schema schema' : Schema) (ds : List Declaration)
      (accessors : List (Sigma Accessor)) :
    schema.declareAll ds s = .ok (accessors, schema') s' → ⟨t, a⟩ ∈ accessors → a.name = name →
      Obtains t name s a s'
  | bind {s a s'} (host : Host) : Obtains t name s a s' → Obtains t name s (a.bind host) s'
  | unbind {s a s'} : Obtains t name s a s' → Obtains t name s a.unbind s'

namespace Store

/-- The field has the name and the type. -/
def Declares (s : Store) (field : FieldId) (name : String) (t : FieldType) : Prop :=
  ∃ d, s.describeField field = .ok d ∧ d.name = name ∧ d.type = t

section Declares
variable {s s' : Store} {field : FieldId} {name : String} {t : FieldType}

theorem Declares.run (h : s.Declares field name t) (es : List Edit) :
    (s.run es).Declares field name t := by
  obtain ⟨d, hd, hname, htype⟩ := h
  exact ⟨d, describeField_run hd es, hname, htype⟩

theorem Declares.checkType (h : s.Declares field name t) : s.checkType t field = .ok () := by
  obtain ⟨d, hd, -, htype⟩ := h
  exact (checkType_eq_ok ..).mpr ⟨d, hd, htype⟩

theorem name_of_lookupField (hs : s.WellFormed) {d : FieldDescriptor}
    (h : s.lookupField name = some field) (hd : s.describeField field = .ok d) : d.name = name := by
  obtain ⟨d', hd', hname⟩ := (hs.registry name field).mp h
  cases ((describeField_eq_ok ..).mp hd).symm.trans hd'
  exact hname

/-- Registering answers a field of that name and type, whether it is new or was known. -/
theorem register_declares (hs : s.WellFormed) {d : FieldDescriptor}
    (h : register d s = .ok field s') :
    s' = s.run [.register d] ∧ s'.Declares field d.name d.type := by
  have hafter : (Edit.register d).after s = s' := by simp only [Edit.after, Edit.perform, h]
  refine ⟨hafter.symm, ?_⟩
  rw [register_apply] at h
  cases hr : s.registry.register d with
  | error e => simp [hr] at h
  | ok result =>
    obtain ⟨⟨found, new⟩, registry⟩ := result
    cases new with
    | true =>
      obtain ⟨-, -, rfl, rfl⟩ := (Registry.register_eq_new ..).mp hr
      simp only [hr] at h
      cases h
      refine ⟨d, (describeField_eq_ok ..).mpr ?_, rfl, rfl⟩
      exact (Registry.descriptors_append ..).trans (if_pos rfl)
    | false =>
      obtain ⟨hlookup, ⟨known, hknown, htype⟩, -⟩ := (Registry.register_eq_known ..).mp hr
      simp only [hr] at h
      cases h
      exact ⟨known, hknown, name_of_lookupField hs hlookup hknown, htype⟩

end Declares

section Obtains
variable {s s' : Store} {t : FieldType} {a : Accessor t}

theorem registerDescribed_declares (hs : s.WellFormed) {d : FieldDescriptor}
    (h : Accessor.registerDescribed t d s = .ok a s') :
    s' = s.run [.register { d with type := t }] ∧ s'.Declares a.field d.name t ∧
      a.name = d.name := by
  simp only [Accessor.registerDescribed, bind, EStateM.bind] at h
  cases hr : register { d with type := t } s with
  | error e u => simp [hr] at h
  | ok field u =>
    simp only [hr] at h
    cases h
    obtain ⟨hrun, hdeclares⟩ := register_declares hs hr
    exact ⟨hrun, hdeclares, rfl⟩

theorem existing_declares (hs : s.WellFormed) {name : String}
    (h : Accessor.existing t s name = .ok (some a)) : s.Declares a.field name t := by
  unfold Accessor.existing at h
  split at h
  next => cases h
  next field hlookup =>
    cases hd : s.describeField field with
    | error e => simp [hd, bind, Except.bind] at h
    | ok d =>
      by_cases htype : d.type = t
      · simp only [hd, bind, Except.bind, htype, if_true, pure, Except.pure] at h
        cases h
        exact ⟨d, hd, name_of_lookupField hs hlookup hd, htype⟩
      · simp [hd, bind, Except.bind, htype, throw, throwThe, MonadExceptOf.throw] at h

theorem declare_declares (hs : s.WellFormed) {schema schema' : Schema} {container : Container}
    {d : FieldDescriptor} (h : schema.declare container t d s = .ok (a, schema') s') :
    s' = s.run [.register { d with type := t }] ∧ s'.Declares a.field d.name t ∧
      a.name = d.name := by
  simp only [Schema.declare, bind, EStateM.bind] at h
  cases hr : Accessor.registerDescribed t d s with
  | error e u => simp [hr] at h
  | ok b u =>
    simp only [hr] at h
    cases h
    -- Binding to the host leaves the field and the name as they are.
    have hmade := registerDescribed_declares hs hr
    exact hmade

theorem declareAll_declares {ds : List Declaration} {schema schema' : Schema}
    {accessors : List (Sigma Accessor)} (hs : s.WellFormed)
    (h : schema.declareAll ds s = .ok (accessors, schema') s') :
    ∃ rs : List FieldDescriptor, s' = s.run (rs.map .register) ∧
      ∀ x ∈ accessors, s'.Declares x.2.field x.2.name x.1 := by
  induction ds generalizing schema s accessors with
  | nil =>
    cases h
    exact ⟨[], rfl, by simp⟩
  | cons d ds ih =>
    simp only [Schema.declareAll, bind, EStateM.bind] at h
    cases hfirst : schema.declare d.container d.descriptor.type d.descriptor s with
    | error e u => simp [hfirst] at h
    | ok first u =>
      obtain ⟨b, schema₁⟩ := first
      obtain ⟨hu, hdeclares, hname⟩ := declare_declares hs hfirst
      simp only [hfirst] at h
      cases hothers : schema₁.declareAll ds u with
      | error e u' => simp [hothers] at h
      | ok others u' =>
        obtain ⟨bs, schema₂⟩ := others
        simp only [hothers] at h
        cases h
        obtain ⟨rs, hrun, hall⟩ := ih (hu ▸ hs.run _) hothers
        refine ⟨d.descriptor :: rs, ?_, List.forall_mem_cons.mpr ⟨?_, hall⟩⟩
        · rw [hrun, hu]
          rfl
        · rw [hrun]
          exact (hname ▸ hdeclares).run _

end Obtains

end Store

/-- Making an accessor registers fields and does nothing else. -/
theorem Obtains.declares {t : FieldType} {name : String} {s s' : Store} {a : Accessor t}
    (h : Obtains t name s a s') (hs : s.WellFormed) :
    ∃ rs : List FieldDescriptor, s' = s.run (rs.map .register) ∧ s'.Declares a.field name t := by
  induction h with
  | register h =>
    obtain ⟨hrun, hdeclares, -⟩ := Store.registerDescribed_declares hs h
    exact ⟨[_], hrun, hdeclares⟩
  | registerDescribed d hname h =>
    obtain ⟨hrun, hdeclares, -⟩ := Store.registerDescribed_declares hs h
    exact ⟨[_], hrun, hname ▸ hdeclares⟩
  | existing h => exact ⟨[], rfl, Store.existing_declares hs h⟩
  | declare schema schema' container d hname h =>
    obtain ⟨hrun, hdeclares, -⟩ := Store.declare_declares hs h
    exact ⟨[_], hrun, hname ▸ hdeclares⟩
  | declareAll schema schema' ds accessors h hmem hname =>
    obtain ⟨rs, hrun, hall⟩ := Store.declareAll_declares hs h
    exact ⟨rs, hrun, hname ▸ hall _ hmem⟩
  | bind host _ ih => exact ih
  | unbind _ ih => exact ih

end TrackStore
