import TrackStore.Proofs.WellFormed

/-! # The identity of fields

The descriptions of the fields only grow at their end, and the table of names is their inverse. So
a name and a handle stand for the same field for as long as the store lives, and what a registration
answers depends on what the name stands for and on nothing else.
-/
namespace TrackStore

namespace Registry

/-- The registry that a registration leaves behind, whether or not it is refused. -/
def after (r : Registry) (d : FieldDescriptor) : Registry :=
  match r.register d with
  | .ok (_, registry) => registry
  | .error _ => r

/-- The registry after a sequence of registrations. -/
def run (r : Registry) (ds : List FieldDescriptor) : Registry := ds.foldl after r

/-- Names and handles stand for each other, and a name decides what a registration of it does. -/
structure Identifies (r : Registry) : Prop where
  lookup_iff : ∀ name field, r.lookup name = some field ↔
    ∃ d, r.descriptor field = .ok d ∧ d.name = name
  names_nodup : r.names.Nodup
  contains_iff : ∀ field, r.contains field = true ↔ ∃ d, r.descriptor field = .ok d
  register_known : ∀ d field known, r.lookup d.name = some field →
    r.descriptor field = .ok known → known.type = d.type → r.register d = .ok ((field, false), r)
  register_conflict : ∀ d field known, r.lookup d.name = some field →
    r.descriptor field = .ok known → known.type ≠ d.type →
      r.register d = .error (.typeConflict d.name known.type.name d.type.name)
  register_new : ∀ d, r.lookup d.name = none → r.size < maxFields →
    r.register d = .ok ((⟨r.size⟩, true), r.append d)

theorem after_cases (r : Registry) (d : FieldDescriptor) :
    r.after d = r ∨ r.lookup d.name = none ∧ r.after d = r.append d := by
  unfold after
  cases h : r.register d with
  | error e => exact .inl rfl
  | ok result =>
    obtain ⟨⟨field, new⟩, registry⟩ := result
    cases new with
    | false => exact .inl ((register_eq_known ..).mp h).2.2
    | true =>
      obtain ⟨hnew, -, -, happend⟩ := (register_eq_new ..).mp h
      exact .inr ⟨hnew, happend⟩

/-- What registering a new name keeps, every sequence of registrations keeps. -/
theorem run_keeps {P : Registry → Prop}
    (hstep : ∀ r d, r.lookup d.name = none → P r → P (r.append d)) {r : Registry} (hr : P r)
    (ds : List FieldDescriptor) : P (r.run ds) := by
  induction ds generalizing r with
  | nil => exact hr
  | cons d ds ih =>
    refine ih ?_
    rcases r.after_cases d with h | ⟨hnew, h⟩
    · rw [h]
      exact hr
    · rw [h]
      exact hstep r d hnew hr

theorem WellFormed.run {r : Registry} (h : r.WellFormed) (ds : List FieldDescriptor) :
    (r.run ds).WellFormed :=
  run_keeps (fun _ _ hnew hr => hr.append hnew) h ds

theorem prefix_append (r : Registry) (d : FieldDescriptor) :
    r.descriptors.toList <+: (r.append d).descriptors.toList := by
  simp [append]

theorem prefix_run (r : Registry) (ds : List FieldDescriptor) :
    r.descriptors.toList <+: (r.run ds).descriptors.toList :=
  run_keeps (P := fun later => r.descriptors.toList <+: later.descriptors.toList)
    (fun later d _ h => h.trans (later.prefix_append d)) (List.prefix_refl _) ds

section WellFormed
variable {r : Registry}

theorem WellFormed.lookup_iff (h : r.WellFormed) (name : String) (field : FieldId) :
    r.lookup name = some field ↔ ∃ d, r.descriptor field = .ok d ∧ d.name = name := by
  simp only [h name field, descriptor_eq_ok]

/-- Two places with one name would both be where the name stands. -/
theorem WellFormed.names_nodup (h : r.WellFormed) : r.names.Nodup := by
  rw [names, List.Nodup, List.pairwise_map, List.pairwise_iff_getElem]
  intro i j hi hj hlt hname
  have hlookup (k : Nat) (hk : k < r.descriptors.toList.length) :
      r.lookup r.descriptors.toList[k].name = some ⟨k⟩ :=
    (h _ ⟨k⟩).mpr ⟨_, by rw [← Array.getElem?_toList, List.getElem?_eq_getElem hk], rfl⟩
  have hsame := (hlookup i hi).symm.trans (hname ▸ hlookup j hj)
  cases hsame
  exact Nat.lt_irrefl _ hlt

theorem contains_eq_true_iff (r : Registry) (field : FieldId) :
    r.contains field = true ↔ ∃ d, r.descriptor field = .ok d := by
  simp only [descriptor_eq_ok, ← Option.isSome_iff_exists, isSome_getElem?]
  exact decide_eq_true_iff

theorem WellFormed.identifies (h : r.WellFormed) : r.Identifies := by
  constructor
  case lookup_iff => exact h.lookup_iff
  case names_nodup => exact h.names_nodup
  case contains_iff => exact r.contains_eq_true_iff
  case register_known =>
    intro d field known hlookup hknown htype
    exact (register_eq_known ..).mpr ⟨hlookup, ⟨known, hknown, htype⟩, rfl⟩
  case register_conflict =>
    intro d field known hlookup hknown htype
    simp [register, hlookup, hknown, htype, bind, Except.bind, throw, throwThe,
      MonadExceptOf.throw]
  case register_new =>
    intro d hnew hsize
    exact (register_eq_new ..).mpr ⟨hnew, hsize, rfl, rfl⟩

end WellFormed

end Registry

namespace Store

/-- What identifies the fields of a store: names, handles and columns stand for each other, and a
name decides what a registration of it does to the store. -/
structure Identifies (s : Store) : Prop where
  names : s.registry.Identifies
  columns : s.columns.size = s.registry.size
  contains_iff_describeField : ∀ field, s.registry.contains field = true ↔
    ∃ d, s.describeField field = .ok d
  contains_iff_column : ∀ field, s.registry.contains field = true ↔ ∃ c, s.column field = .ok c
  register_known : ∀ d field known, s.lookupField d.name = some field →
    s.describeField field = .ok known → known.type = d.type → register d s = .ok field s
  register_conflict : ∀ d field known, s.lookupField d.name = some field →
    s.describeField field = .ok known → known.type ≠ d.type →
      register d s = .error (.typeConflict d.name known.type.name d.type.name) s
  register_new : ∀ d, s.lookupField d.name = none → s.registry.size < Registry.maxFields →
    register d s = .ok ⟨s.registry.size⟩
      { s with registry := s.registry.append d, columns := s.columns.push ∅ }

theorem WellFormed.contains_iff_column {s : Store} (h : s.WellFormed) (field : FieldId) :
    s.registry.contains field = true ↔ ∃ c, s.column field = .ok c := by
  constructor
  · intro hf
    exact ⟨_, column_of_lt (h.index_lt hf)⟩
  · rintro ⟨c, hc⟩
    obtain ⟨hlt, -⟩ := Array.getElem?_eq_some_iff.mp ((column_eq_ok ..).mp hc)
    rw [h.columns] at hlt
    exact decide_eq_true hlt

theorem WellFormed.identifies {s : Store} (h : s.WellFormed) : s.Identifies := by
  have hnames := h.registry.identifies
  constructor
  case names => exact hnames
  case columns => exact h.columns
  case contains_iff_describeField => exact hnames.contains_iff
  case contains_iff_column => exact h.contains_iff_column
  case register_known =>
    intro d field known hlookup hknown htype
    rw [register_apply, hnames.register_known d field known hlookup hknown htype]
  case register_conflict =>
    intro d field known hlookup hknown htype
    rw [register_apply, hnames.register_conflict d field known hlookup hknown htype]
  case register_new =>
    intro d hnew hsize
    rw [register_apply, hnames.register_new d hnew hsize]

/-- What a call does to the descriptions is at most to add one behind them. -/
theorem descriptors_prefix_run (s : Store) (es : List Edit) :
    s.registry.descriptors.toList <+: (s.run es).registry.descriptors.toList := by
  refine run_keeps (P := fun t => s.registry.descriptors.toList <+: t.registry.descriptors.toList)
    (fun t c _ h => ?_) (List.prefix_refl _) es
  rw [registry_apply]
  cases c with
  | declare d => exact h.trans (t.registry.prefix_append d)
  | _ => exact h

end Store
end TrackStore
