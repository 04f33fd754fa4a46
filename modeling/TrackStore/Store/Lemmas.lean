import TrackStore.Store.Membership
import TrackStore.Store.Slots
import Std.Data.ExtTreeMap.Lemmas

/-! # What an operation does to a store

First each operation as the check that it asks and the change that it makes, then each change as
what it does to the columns, the frames and the owners.
-/

namespace TrackStore.Store

/-- A program comes through where its first part does and the rest does behind it. -/
theorem bind_eq_ok {α β : Type} {first : StoreM α} {next : α → StoreM β} {s u : Store} {b : β} :
    (first >>= next) s = .ok b u ↔ ∃ a t, first s = .ok a t ∧ next a t = .ok b u := by
  simp only [bind, EStateM.bind]
  cases first s <;> simp [and_assoc]

theorem query_eq_ok {α : Type} {read : Store → Except Error α} {s t : Store} {a : α} :
    query read s = .ok a t ↔ read s = .ok a ∧ t = s := by
  rw [query_apply]
  cases read s <;> simp [eq_comm]

theorem createRow_apply (s : Store) :
    createRow s = .ok s.rows.allocate.1 { s with rows := s.rows.allocate.2 } := rfl

theorem register_apply (d : FieldDescriptor) (s : Store) :
    register d s = match s.registry.register d with
      | .ok ((field, true), registry) =>
        .ok field { s with registry, columns := s.columns.push ∅ }
      | .ok ((field, false), _) => .ok field s
      | .error e => .error e s := by
  simp only [register, bind, EStateM.bind, query_apply]
  rcases s.registry.register d with e | ⟨⟨field, _ | _⟩, registry⟩ <;> rfl

theorem addFrame_apply (track frame : Row) (s : Store) :
    addFrame track frame s = match s.mayJoin track frame with
      | .ok true => .ok () (s.join track frame)
      | .ok false => .ok () s
      | .error e => .error e s := by
  simp only [addFrame, bind, EStateM.bind, query_apply]
  cases s.mayJoin track frame with
  | error e => rfl
  | ok joins => cases joins <;> rfl

theorem detachFrame_apply (frame : Row) (s : Store) :
    detachFrame frame s = match s.owningTrack frame with
      | .ok owner => .ok owner (s.leave frame)
      | .error e => .error e s := by
  simp only [detachFrame, bind, EStateM.bind, query_apply]
  cases s.owningTrack frame <;> rfl

theorem deleteRow_apply (row : Row) (s : Store) :
    deleteRow row s = match s.mayDelete row with
      | .ok true => .ok () (s.drop row)
      | .ok false => .ok () s
      | .error e => .error e s := by
  simp only [deleteRow, bind, EStateM.bind, query_apply]
  cases s.mayDelete row with
  | error e => rfl
  | ok deletes => cases deletes <;> rfl

theorem setRaw_apply (field : FieldId) (row : Row) (bytes : Bytes) (s : Store) :
    setRaw field row bytes s = match s.columnAt field row with
      | .ok _ => .ok () (s.modifyColumn field (·.insert row bytes))
      | .error e => .error e s := by
  simp only [setRaw, bind, EStateM.bind, query_apply]
  cases s.columnAt field row <;> rfl

theorem removeAt_apply (field : FieldId) (row : Row) (s : Store) :
    removeAt field row s = match s.hasValue field row with
      | .ok present => .ok present (s.modifyColumn field (·.erase row))
      | .error e => .error e s := by
  simp only [removeAt, bind, EStateM.bind, query_apply]
  cases s.hasValue field row <;> rfl

theorem copyValue_apply (field : FieldId) (src dst : Row) (s : Store) :
    copyValue field src dst s = match s.checkRow src, s.columnAt field dst with
      | .ok _, .ok column =>
        match column[src]? with
        | some bytes => .ok () (s.modifyColumn field (·.insert dst bytes))
        | none => .ok () s
      | .error e, _ => .error e s
      | .ok _, .error e => .error e s := by
  simp only [copyValue, bind, EStateM.bind, query_apply]
  cases hsrc : s.checkRow src with
  | error e => rfl
  | ok _ =>
    cases hdst : s.columnAt field dst with
    | error e => simp [hdst]
    | ok column => cases hslot : column[src]? <;> simp [hdst, hslot] <;> rfl

theorem setValue_apply (t : FieldType) (field : FieldId) (row : Row) (v : t.Value) (s : Store) :
    setValue t field row v s = match s.checkType t field with
      | .ok _ => setRaw field row (t.encode v) s
      | .error e => .error e s := by
  simp only [setValue, bind, EStateM.bind, query_apply]
  cases s.checkType t field <;> rfl

@[simp] theorem rows_leave (s : Store) (frame : Row) : (s.leave frame).rows = s.rows := by
  unfold leave
  split <;> rfl

@[simp] theorem registry_leave (s : Store) (frame : Row) :
    (s.leave frame).registry = s.registry := by
  unfold leave
  split <;> rfl

@[simp] theorem columns_leave (s : Store) (frame : Row) : (s.leave frame).columns = s.columns := by
  unfold leave
  split <;> rfl

@[simp] theorem config_leave (s : Store) (frame : Row) : (s.leave frame).config = s.config := by
  unfold leave
  split <;> rfl

theorem framesOf_join (s : Store) (track frame other : Row) :
    (s.join track frame).framesOf other =
      if other = track then s.framesOf track ++ [frame] else s.framesOf other := by
  simp only [framesOf, join, Std.ExtTreeMap.getD_insert]
  simp only [Std.LawfulEqCmp.compare_eq_iff_eq]
  by_cases h : other = track
  · simp [h]
  · simp [h, Ne.symm h]

theorem owners_join (s : Store) (track frame other : Row) :
    (s.join track frame).owners[other]? =
      if other = frame then some track else s.owners[other]? := by
  simp only [join, Std.ExtTreeMap.getElem?_insert, Std.LawfulEqCmp.compare_eq_iff_eq,
    @eq_comm _ other]

theorem owners_leave (s : Store) (frame other : Row) :
    (s.leave frame).owners[other]? = if other = frame then none else s.owners[other]? := by
  unfold leave
  split
  · split <;> simp_all
  · simp only [Std.ExtTreeMap.getElem?_erase, Std.LawfulEqCmp.compare_eq_iff_eq,
      @eq_comm _ other]

theorem framesOf_leave (s : Store) (frame other : Row) :
    (s.leave frame).framesOf other =
      if s.owners[frame]? = some other then (s.framesOf other).filter (· ≠ frame)
      else s.framesOf other := by
  unfold leave
  split
  next h => simp [h]
  next track h =>
    simp only [framesOf, h, Option.some.injEq, Std.ExtTreeMap.getD_eq_getD_getElem?,
      Std.ExtTreeMap.getElem?_modify, Std.LawfulEqCmp.compare_eq_iff_eq]
    by_cases ht : track = other
    · subst ht
      cases s.frames[track]? <;> simp
    · simp [ht]

theorem column_modifyColumn (s : Store) (field other : FieldId) (f : Column → Column) :
    (s.modifyColumn field f).column other =
      if other = field then (s.column field).map f else s.column other := by
  simp only [column, modifyColumn, Array.getElem?_modify]
  by_cases h : field.index = other.index
  · have e : other = field := by cases field; cases other; simp_all
    subst e
    cases hc : s.columns[other.index]? <;> simp [Except.map]
  · have e : other ≠ field := fun e => h (by rw [e])
    simp [h, e]

end TrackStore.Store
