import TrackStore.Proofs.Accessors
import TrackStore.Proofs.Fields.Identity

/-! # Declarations one after the other

What a store makes of a list of descriptions. Of each name it keeps the first one. A later one of
the same type finds the field registered, and one of another type is a conflict and ends the list.
-/
namespace TrackStore

namespace FieldDescriptor

/-- The name stands for a field of another type. -/
def Conflicts (d : FieldDescriptor) (known : List FieldDescriptor) : Prop :=
  ∃ k ∈ known, k.name = d.name ∧ k.type ≠ d.type

/-- No description conflicts with a known one or with one before it. -/
def Consistent : List FieldDescriptor → List FieldDescriptor → Prop
  | _, [] => True
  | known, d :: ds => ¬ d.Conflicts known ∧ Consistent (known ++ [d]) ds

/-- The first description of each name, in order, but for the names that are taken. -/
def firsts : List String → List FieldDescriptor → List FieldDescriptor
  | _, [] => []
  | taken, d :: ds =>
    if d.name ∈ taken then firsts taken ds else d :: firsts (taken ++ [d.name]) ds

instance (d : FieldDescriptor) (known : List FieldDescriptor) : Decidable (d.Conflicts known) :=
  inferInstanceAs (Decidable (∃ k ∈ known, k.name = d.name ∧ k.type ≠ d.type))

instance decidableConsistent : (known ds : List FieldDescriptor) → Decidable (Consistent known ds)
  | _, [] => .isTrue trivial
  | known, d :: ds =>
    have := decidableConsistent (known ++ [d]) ds
    inferInstanceAs (Decidable (¬ d.Conflicts known ∧ Consistent (known ++ [d]) ds))

variable {known : List FieldDescriptor} {d : FieldDescriptor}

theorem firsts_append (taken : List String) (ds es : List FieldDescriptor) :
    firsts taken (ds ++ es) =
      firsts taken ds ++ firsts (taken ++ (firsts taken ds).map (·.name)) es := by
  induction ds generalizing taken with
  | nil => simp [firsts]
  | cons d ds ih => by_cases h : d.name ∈ taken <;> simp [firsts, h, ih]

theorem Conflicts.mono {others : List FieldDescriptor} (hsub : known ⊆ others)
    (h : d.Conflicts known) : d.Conflicts others := by
  obtain ⟨k, hk, hconflict⟩ := h
  exact ⟨k, hsub hk, hconflict⟩

theorem Consistent.mono {others ds : List FieldDescriptor} (hsub : others ⊆ known)
    (h : Consistent known ds) : Consistent others ds := by
  induction ds generalizing known others with
  | nil => trivial
  | cons d ds ih =>
    have hmore : others ++ [d] ⊆ known ++ [d] := List.append_subset.mpr
      ⟨List.subset_append_of_subset_left [d] hsub, List.subset_append_right ..⟩
    exact ⟨mt (.mono hsub) h.1, ih hmore h.2⟩

end FieldDescriptor

open FieldDescriptor (firsts Consistent)

namespace Store

/-- The second store is the first with fields that were declared in it. -/
structure Declared (s : Store) (ds : List FieldDescriptor) (t : Store) : Prop where
  config : t.config = s.config
  rows : t.rows = s.rows
  frames : t.frames = s.frames
  owners : t.owners = s.owners
  slot : ∀ field row, t.slot field row = s.slot field row
  descriptors : t.registry.descriptors.toList =
    s.registry.descriptors.toList ++ firsts s.registry.names ds
  wellFormed : t.WellFormed

/-- There are handles for all fields that are declared. -/
def HasRoom (s : Store) (ds : List FieldDescriptor) : Prop :=
  s.registry.size + (firsts s.registry.names ds).length ≤ Registry.maxFields

instance (s : Store) (ds : List FieldDescriptor) : Decidable (s.HasRoom ds) :=
  inferInstanceAs (Decidable (_ ≤ _))

variable {s t u : Store} {ds es : List FieldDescriptor} {d : FieldDescriptor}

theorem Declared.names (h : s.Declared ds t) :
    t.registry.names = s.registry.names ++ (firsts s.registry.names ds).map (·.name) := by
  rw [Registry.names, h.descriptors, List.map_append]
  rfl

theorem Declared.size (h : s.Declared ds t) :
    t.registry.size = s.registry.size + (firsts s.registry.names ds).length := by
  rw [Registry.size, ← Array.length_toList, h.descriptors, List.length_append, Array.length_toList]
  rfl

theorem Declared.refl (hs : s.WellFormed) : s.Declared [] s where
  config := rfl
  rows := rfl
  frames := rfl
  owners := rfl
  slot _ _ := rfl
  descriptors := by simp [firsts]
  wellFormed := hs

theorem Declared.trans (h : s.Declared ds t) (h' : t.Declared es u) : s.Declared (ds ++ es) u where
  config := h'.config.trans h.config
  rows := h'.rows.trans h.rows
  frames := h'.frames.trans h.frames
  owners := h'.owners.trans h.owners
  slot field row := (h'.slot field row).trans (h.slot field row)
  descriptors := by
    rw [h'.descriptors, h.descriptors, h.names, FieldDescriptor.firsts_append, List.append_assoc]
  wellFormed := h'.wellFormed

theorem HasRoom.left (h : s.HasRoom (ds ++ es)) : s.HasRoom ds := by
  rw [HasRoom, FieldDescriptor.firsts_append, List.length_append] at h
  exact Nat.le_trans (Nat.add_le_add_left (Nat.le_add_right ..) _) h

theorem HasRoom.right (h : s.HasRoom (ds ++ es)) (hd : s.Declared ds t) : t.HasRoom es := by
  rw [HasRoom, FieldDescriptor.firsts_append, List.length_append, ← Nat.add_assoc] at h
  rw [HasRoom, hd.size, hd.names]
  exact h

/-- What is consistent behind a declaration is consistent with the store after it. -/
theorem Declared.consistent (h : s.Declared [d] t)
    (hrest : Consistent (s.registry.descriptors.toList ++ [d]) ds) :
    Consistent t.registry.descriptors.toList ds := by
  refine hrest.mono ?_
  rw [h.descriptors]
  by_cases hd : d.name ∈ s.registry.names <;> simp [firsts, hd]

theorem exists_declares_iff (s : Store) (name : String) (type : FieldType) :
    (∃ field, s.Declares field name type) ↔
      ∃ d ∈ s.registry.descriptors.toList, d.name = name ∧ d.type = type := by
  simp only [Declares, describeField_eq_ok, List.mem_iff_getElem?, Array.getElem?_toList]
  constructor
  · rintro ⟨field, d, hd, hname⟩
    exact ⟨d, ⟨field.index, hd⟩, hname⟩
  · rintro ⟨d, ⟨i, hd⟩, hname⟩
    exact ⟨⟨i⟩, d, hd, hname⟩

/-- What conflicts with a known description or with a declared one conflicts with the store after
the declarations. -/
theorem Declared.conflicts (h : s.Declared ds t)
    (hfields : ∀ e ∈ ds, ∃ field, t.Declares field e.name e.type)
    (hd : d.Conflicts (s.registry.descriptors.toList ++ ds)) :
    d.Conflicts t.registry.descriptors.toList := by
  obtain ⟨k, hk, hname, htype⟩ := hd
  rcases List.mem_append.mp hk with hold | hnew
  · refine ⟨k, ?_, hname, htype⟩
    rw [h.descriptors]
    exact List.mem_append_left _ hold
  · obtain ⟨q, hq, hqname, hqtype⟩ := (t.exists_declares_iff k.name k.type).mp (hfields k hnew)
    exact ⟨q, hq, hqname.trans hname, hqtype ▸ htype⟩

theorem WellFormed.declares_iff (hs : s.WellFormed) {field : FieldId} {name : String}
    {type : FieldType} : s.Declares field name type ↔
      s.lookupField name = some field ∧ ∃ d, s.describeField field = .ok d ∧ d.type = type := by
  constructor
  · rintro ⟨d, hd, hname, htype⟩
    exact ⟨(hs.registry.lookup_iff name field).mpr ⟨d, hd, hname⟩, d, hd, htype⟩
  · rintro ⟨hlookup, d, hd, htype⟩
    exact ⟨d, hd, name_of_lookupField hs hlookup hd, htype⟩

/-- A description that conflicts with nothing is registered, as a new field or as the one that has
its name. -/
theorem WellFormed.register_of_consistent (hs : s.WellFormed)
    (hd : ¬ d.Conflicts s.registry.descriptors.toList) (hroom : s.HasRoom [d]) :
    ∃ field t, register d s = .ok field t ∧ s.Declared [d] t := by
  cases hlookup : s.lookupField d.name with
  | none =>
    have hnew : d.name ∉ s.registry.names := by
      intro hmem
      obtain ⟨k, hk, hname⟩ := List.mem_map.mp hmem
      obtain ⟨field, hfield⟩ := (s.exists_declares_iff d.name k.type).mpr ⟨k, hk, hname, rfl⟩
      simp [(hs.declares_iff.mp hfield).1] at hlookup
    have hfirst : firsts s.registry.names [d] = [d] := by simp [firsts, hnew]
    have hsize : s.registry.size < Registry.maxFields := by
      rw [HasRoom, hfirst] at hroom
      exact hroom
    refine ⟨_, _, hs.identifies.register_new d hlookup hsize, ?_⟩
    have hchange : Change.Allowed s (.declare d) := ⟨hlookup, hsize⟩
    constructor
    case slot => exact s.slot_declare d
    case descriptors => simp [Registry.append, hfirst]
    case wellFormed => exact hs.apply hchange
    all_goals rfl
  | some field =>
    obtain ⟨k, hk, hname⟩ := (hs.registry.lookup_iff d.name field).mp hlookup
    obtain ⟨q, hq, hqname, hqtype⟩ :=
      (s.exists_declares_iff d.name k.type).mp ⟨field, k, hk, hname, rfl⟩
    have htype : k.type = d.type := by
      by_contra hne
      exact hd ⟨q, hq, hqname, hqtype ▸ hne⟩
    have hknown : d.name ∈ s.registry.names := List.mem_map.mpr ⟨q, hq, hqname⟩
    refine ⟨field, s, hs.identifies.register_known d field k hlookup hk htype, ?_⟩
    have hsame := Declared.refl hs
    exact { hsame with descriptors := by simp [firsts, hknown] }

/-- A description that conflicts is refused, and named with both types. -/
theorem WellFormed.register_of_conflict (hs : s.WellFormed)
    (hd : d.Conflicts s.registry.descriptors.toList) :
    ∃ k ∈ s.registry.descriptors.toList, k.name = d.name ∧ k.type ≠ d.type ∧
      register d s = .error (.typeConflict d.name k.type.name d.type.name) s := by
  obtain ⟨k, hk, hname, htype⟩ := hd
  refine ⟨k, hk, hname, htype, ?_⟩
  obtain ⟨field, hfield⟩ := (s.exists_declares_iff d.name k.type).mpr ⟨k, hk, hname, rfl⟩
  obtain ⟨hlookup, q, hq, hqtype⟩ := hs.declares_iff.mp hfield
  rw [← hqtype] at htype ⊢
  exact hs.identifies.register_conflict d field q hlookup hq htype

end Store

end TrackStore
