import TrackStore.Proofs.Accessors
import TrackStore.Proofs.Lookup.Listing
import TrackStore.Proofs.SlotFormat

/-! # Type safety

An accessor stays good for the field that it was made for: the type of a field never changes, so no
check of it can fail later. What typed access can still meet is a slot with bytes that are no value
of the type, and there are none where all values were written by their type. Under another type
than its own a field is not accessed at all.
-/
namespace TrackStore

namespace Accessor

variable {t : FieldType}

/-- Through the accessor everything succeeds at live rows, except that a typed read can meet bytes
that are no value of the type. -/
structure Sound (a : Accessor t) (s : Store) : Prop where
  getAt : ∀ row e, s.isLive row = true → a.getAt s row = .error e → ∃ cause, e = .codec cause
  lookup : ∀ listing v e, s.lookupIn listing t a.field v = .error e → ∃ cause, e = .codec cause
  setAt : ∀ row v, s.isLive row = true → ∃ u, a.setAt row v s = .ok () u
  getRaw : ∀ row, s.isLive row = true → ∃ stored, s.getRaw a.field row = .ok stored
  setRaw : ∀ row bytes, s.isLive row = true → ∃ u, Store.setRaw a.field row bytes s = .ok () u
  hasValueAt : ∀ row, s.isLive row = true → ∃ present, a.hasValueAt s row = .ok present
  removeAt : ∀ row, s.isLive row = true → ∃ present u, a.removeAt row s = .ok present u
  copyValue : ∀ src dst, s.isLive src = true → s.isLive dst = true →
    ∃ u, a.copyValue src dst s = .ok () u
  /-- At the selected row there may also be no live row to work on. -/
  get : ∀ c e, a.get ⟨s, c⟩ = .error e → e.category = .unboundCursor ∨ ∃ cause, e = .codec cause
  set : ∀ c v e w, a.set v ⟨s, c⟩ = .error e w → e.category = .unboundCursor
  hasValue : ∀ c e, a.hasValue ⟨s, c⟩ = .error e → e.category = .unboundCursor

/-- Every typed read comes through, in whatever order a lookup has the slots. -/
structure Legible (a : Accessor t) (s : Store) : Prop where
  getAt : ∀ row, s.isLive row = true → ∃ found, a.getAt s row = .ok found
  lookup : ∀ column, s.column a.field = .ok column →
    ∀ listing : Column → List (Row × Bytes), (listing column).Perm column.toList →
      ∀ v, ∃ found, s.lookupIn listing t a.field v = .ok found

/-- Every typed access is refused with the declared type and the type asked for, at every row, and
changes nothing. -/
structure Mismatched (a : Accessor t) (s : Store) (d : FieldDescriptor) : Prop where
  getAt : ∀ row, a.getAt s row = .error (.typeMismatch d.name d.type.name t.name)
  setAt : ∀ row v, a.setAt row v s = .error (.typeMismatch d.name d.type.name t.name) s
  lookup : ∀ listing v,
    s.lookupIn listing t a.field v = .error (.typeMismatch d.name d.type.name t.name)
  get : ∀ c row, a.selectedRow ⟨s, c⟩ = .ok row →
    a.get ⟨s, c⟩ = .error (.typeMismatch d.name d.type.name t.name)
  set : ∀ c row v, a.selectedRow ⟨s, c⟩ = .ok row →
    a.set v ⟨s, c⟩ = .error (.typeMismatch d.name d.type.name t.name) ⟨s, c⟩

variable {a : Accessor t} {s : Store}

theorem selectedRow_cases (a : Accessor t) (w : Workspace) :
    (∃ row, a.selectedRow w = .ok row ∧ w.store.isLive row = true) ∨
      ∃ e, a.selectedRow w = .error e ∧ e.category = .unboundCursor := by
  cases hhost : a.host with
  | none => exact .inr ⟨.unboundCursor, by simp [selectedRow, hhost], rfl⟩
  | some host =>
    have hrow : a.selectedRow w = w.cursors.resolve host w.store := by
      simp only [selectedRow, hhost, Workspace.resolve]
    rw [hrow, Cursors.resolve]
    cases w.cursors.selected host with
    | none => exact .inr ⟨.unboundCursor, rfl, rfl⟩
    | some row =>
      by_cases hlive : w.store.isLive row = true
      · exact .inl ⟨row, if_pos hlive, hlive⟩
      · exact .inr ⟨.staleCursor row, if_neg hlive, rfl⟩

theorem set_of_selectedRow {c : Cursors} {row : Row} (h : a.selectedRow ⟨s, c⟩ = .ok row)
    (v : t.Value) : a.set v ⟨s, c⟩ = Workspace.onStore (a.setAt row v) ⟨s, c⟩ := by
  simp only [set, Bind.bind, EStateM.bind, Workspace.query, h]

theorem set_of_error {c : Cursors} {e : Error} (h : a.selectedRow ⟨s, c⟩ = .error e)
    (v : t.Value) : a.set v ⟨s, c⟩ = .error e ⟨s, c⟩ := by
  simp only [set, Bind.bind, EStateM.bind, Workspace.query, h]

theorem sound_of_checkType (hs : s.WellFormed) (htype : s.checkType t a.field = .ok ()) :
    a.Sound s := by
  have access {row : Row} (hlive : s.isLive row = true) : s.Access t a.field row :=
    ⟨hs, hlive, htype⟩
  have hindex := hs.index_lt_of_checkType htype
  have hcolumn := Store.column_of_lt hindex
  constructor
  case getAt =>
    intro row e hlive he
    exact (access hlive).codec_of_getValue he
  case lookup =>
    intro listing v e he
    rw [Store.lookupIn_eq htype hcolumn] at he
    exact Store.codec_of_scan he
  case setAt =>
    intro row v hlive
    exact ⟨_, (access hlive).setValue_eq v⟩
  case getRaw =>
    intro row hlive
    exact ⟨_, Store.getRaw_of_live hlive hindex⟩
  case setRaw =>
    intro row bytes hlive
    exact ⟨_, (access hlive).setRaw_eq bytes⟩
  case hasValueAt =>
    intro row hlive
    exact ⟨_, Store.hasValue_of_live hlive hindex⟩
  case removeAt =>
    intro row hlive
    simp only [removeAt, Store.removeAt_apply, Store.hasValue_of_live hlive hindex]
    exact ⟨_, _, rfl⟩
  case copyValue =>
    intro src dst hsrc hdst
    simp only [copyValue, Store.copyValue_apply, (Store.checkRow_eq_ok ..).mpr hsrc,
      Store.columnAt_of_live hdst hindex]
    cases s.columns[a.field.index][src]? with
    | none => exact ⟨s, rfl⟩
    | some bytes => exact ⟨_, rfl⟩
  case get =>
    intro c e he
    rcases a.selectedRow_cases ⟨s, c⟩ with ⟨row, hrow, hlive⟩ | ⟨e', hrow, hcategory⟩
    · simp only [get, hrow, Bind.bind, Except.bind] at he
      exact .inr ((access hlive).codec_of_getValue he)
    · simp only [get, hrow, Bind.bind, Except.bind] at he
      cases he
      exact .inl hcategory
  case set =>
    intro c v e w he
    rcases a.selectedRow_cases ⟨s, c⟩ with ⟨row, hrow, hlive⟩ | ⟨e', hrow, hcategory⟩
    · have hset : a.setAt row v s = _ := (access hlive).setValue_eq v
      simp only [set_of_selectedRow hrow, Workspace.onStore, hset] at he
      cases he
    · rw [set_of_error hrow] at he
      cases he
      exact hcategory
  case hasValue =>
    intro c e he
    rcases a.selectedRow_cases ⟨s, c⟩ with ⟨row, hrow, hlive⟩ | ⟨e', hrow, hcategory⟩
    · simp only [hasValue, hrow, Bind.bind, Except.bind] at he
      cases (Store.hasValue_of_live hlive hindex).symm.trans he
    · simp only [hasValue, hrow, Bind.bind, Except.bind] at he
      cases he
      exact hcategory

end Accessor

namespace Store

variable {s : Store} {t : FieldType} {field : FieldId} {good : (t : FieldType) → t.Value → Prop}

theorem Encoded.value_of_slot (h : s.Encoded good field) (htype : s.checkType t field = .ok ())
    {row : Row} {bytes : Bytes} (hslot : s.slot field row = some bytes) :
    ∃ v, good t v ∧ bytes = t.encode v := by
  obtain ⟨d, hd, rfl⟩ := (checkType_eq_ok ..).mp htype
  exact h d row bytes hd hslot

theorem Encoded.readable (h : s.Encoded FieldType.Fits field)
    (htype : s.checkType t field = .ok ()) (row : Row) : s.Readable t field row := by
  intro bytes hslot
  obtain ⟨v, hfits, rfl⟩ := h.value_of_slot htype hslot
  exact ⟨v, FieldType.decode_encode hfits⟩

end Store

namespace Accessor

variable {t : FieldType} {a : Accessor t} {s : Store}

theorem legible_of_readable (hs : s.WellFormed) (htype : s.checkType t a.field = .ok ())
    (hread : ∀ row, s.Readable t a.field row) : a.Legible s where
  getAt row hlive := ⟨_, Store.getValue_of_readable hs hlive htype (hread row)⟩
  lookup _ hc _ hperm _ :=
    Store.lookupIn_of_readable htype hc hperm (Store.not_undecodable_of_readable hc hread)

theorem mismatched_of_ne {d : FieldDescriptor} (hd : s.describeField a.field = .ok d)
    (hne : d.type ≠ t) : a.Mismatched s d := by
  have hcheck : s.checkType t a.field = .error (.typeMismatch d.name d.type.name t.name) := by
    simp [Store.checkType, hd, hne, Bind.bind, Except.bind, throw, throwThe, MonadExceptOf.throw]
  have hset (row : Row) (v : t.Value) :
      a.setAt row v s = .error (.typeMismatch d.name d.type.name t.name) s := by
    rw [setAt, Store.setValue_apply, hcheck]
  have hget (row : Row) : a.getAt s row = .error (.typeMismatch d.name d.type.name t.name) := by
    simp only [getAt, Store.getValue, hcheck, Bind.bind, Except.bind]
  constructor
  case getAt => exact hget
  case setAt => exact hset
  case lookup =>
    intro listing v
    simp only [Store.lookupIn, hcheck, Bind.bind, Except.bind]
  case get =>
    intro c row hrow
    simp only [get, hrow, Bind.bind, Except.bind]
    exact hget row
  case set =>
    intro c row v hrow
    rw [set_of_selectedRow hrow, Workspace.onStore]
    simp only [hset]

end Accessor

namespace Store

variable {t : FieldType} {name : String} {a : Accessor t} {s : Store}

/-- What a run without raw writes to a field leaves there, over the making of an accessor. -/
theorem encoded_run_obtains {good : (t : FieldType) → t.Value → Prop} {config : Config}
    {es fs : List Edit} {field : FieldId} (h : Obtains t name ((withConfig config).run es) a s)
    (hgood : ∀ e ∈ es ++ fs, WritesGood good field e) : (s.run fs).Encoded good field := by
  have hw : (withConfig config).WellFormed := wellFormed_withConfig config
  obtain ⟨rs, rfl, -⟩ := h.declares (hw.run es)
  rw [← run_append, ← run_append]
  refine (encoded_withConfig config).run hw fun e he => ?_
  simp only [List.mem_append, List.mem_map] at he
  rcases he with he | ⟨d, -, rfl⟩ | he
  · exact hgood e (List.mem_append_left _ he)
  · constructor <;> simp
  · exact hgood e (List.mem_append_right _ he)

/-- After every continuation of a run an accessor is sound. Without raw writes every slot of its
field holds what is written for a value of its type, and all typed reads come through. Whoever asks
for another type than the declared one is refused. -/
theorem typed_access_run (config : Config) (es fs : List Edit)
    (h : Obtains t name ((withConfig config).run es) a s) :
    let u := s.run fs
    u.Declares a.field name t ∧ a.Sound u ∧
      ((∀ row bytes, Edit.setRaw a.field row bytes ∉ es ++ fs) →
        (∀ row bytes, u.slot a.field row = some bytes → ∃ v, bytes = t.encode v) ∧
        ((∀ t' row v, Edit.setValue t' a.field row v ∈ es ++ fs → t'.Fits v) → a.Legible u)) ∧
      ∀ (t' : FieldType) (b : Accessor t') d, u.describeField b.field = .ok d → d.type ≠ t' →
        b.Mismatched u d := by
  intro u
  have hold : ((withConfig config).run es).WellFormed := (wellFormed_withConfig config).run es
  obtain ⟨rs, hrun, hdeclares⟩ := h.declares hold
  have hu : u.WellFormed := (hrun ▸ hold.run _ : s.WellFormed).run fs
  have hdeclared : u.Declares a.field name t := hdeclares.run fs
  have htype := hdeclared.checkType
  refine ⟨hdeclared, Accessor.sound_of_checkType hu htype, fun hraw => ⟨?_, fun hfits => ?_⟩, ?_⟩
  · intro row bytes hslot
    have hencoded : u.Encoded (fun _ _ => True) a.field :=
      encoded_run_obtains h fun e he =>
        ⟨fun row bytes heq => hraw row bytes (heq ▸ he), fun _ _ _ _ => trivial⟩
    obtain ⟨v, -, hv⟩ := hencoded.value_of_slot htype hslot
    exact ⟨v, hv⟩
  · have hencoded : u.Encoded FieldType.Fits a.field :=
      encoded_run_obtains h fun e he =>
        ⟨fun row bytes heq => hraw row bytes (heq ▸ he),
          fun t' row v heq => hfits t' row v (heq ▸ he)⟩
    exact Accessor.legible_of_readable hu htype (hencoded.readable htype)
  · intro t' b d hd hne
    exact Accessor.mismatched_of_ne hd hne

theorem typed_access_run_note :
    let es : List Edit := [.createRow, .createRow]
    let s := ((withConfig { initialRowCapacity := 0 }).run es).run
      [.register { name := "note", type := .text }]
    let a : Accessor .text := { field := ⟨0⟩, name := "note" }
    let fs : List Edit :=
      [.setValue .text ⟨0⟩ ⟨1⟩ (String.ofList [Char.ofNat 0xE9]), .copyValue ⟨0⟩ ⟨1⟩ ⟨2⟩]
    let b : Accessor .bool := { field := ⟨0⟩, name := "flag" }
    Obtains .text "note" ((withConfig { initialRowCapacity := 0 }).run es) a s ∧
      a.Sound (s.run fs) ∧ a.Legible (s.run fs) ∧
      b.Mismatched (s.run fs) { name := "note", type := .text } := by
  intro es s a fs b
  have hmade : Accessor.register .text "note" ((withConfig { initialRowCapacity := 0 }).run es) =
      .ok a s := rfl
  have hd : s.describeField ⟨0⟩ = .ok { name := "note", type := .text } := rfl
  obtain ⟨-, hsound, hlegible, hmismatched⟩ := typed_access_run _ es fs (.register hmade)
  have hraw (row : Row) (bytes : Bytes) : Edit.setRaw a.field row bytes ∉ es ++ fs := by
    simp [es, fs]
  have hfits (t : FieldType) (row : Row) (v : t.Value)
      (hv : Edit.setValue t a.field row v ∈ es ++ fs) : t.Fits v := by
    simp only [es, fs, List.cons_append, List.nil_append, List.mem_cons, reduceCtorEq, false_or,
      List.not_mem_nil, or_false] at hv
    cases hv
    simp only [FieldType.Fits]
    decide
  exact ⟨.register hmade, hsound, (hlegible hraw).2 hfits,
    hmismatched .bool b _ (describeField_run hd fs) (by decide)⟩

end Store
end TrackStore
