import TrackStore.Proofs.Reads

/-! # Runs of a store

The calls that change a store, and the stores that sequences of them lead to. A call that fails is
part of a run like one that succeeds. A call makes at most one elementary change, and only where the
change is allowed, so what holds of a new store and is kept by every allowed change holds after
every run.
-/
namespace TrackStore

/-- A call that can change a store, with any handles. -/
inductive Edit where
  | createRow
  | deleteRow (row : Row)
  | register (d : FieldDescriptor)
  | setRaw (field : FieldId) (row : Row) (bytes : Bytes)
  | setValue (t : FieldType) (field : FieldId) (row : Row) (v : t.Value)
  | removeAt (field : FieldId) (row : Row)
  | copyValue (field : FieldId) (src dst : Row)
  | addFrame (track frame : Row)
  | detachFrame (frame : Row)

namespace Edit

/-- What a call answers where it succeeds. -/
abbrev Answer : Edit → Type
  | createRow => Row
  | register _ => FieldId
  | removeAt .. => Bool
  | detachFrame _ => Option Row
  | _ => Unit

def perform : (e : Edit) → StoreM e.Answer
  | createRow => Store.createRow
  | deleteRow row => Store.deleteRow row
  | register d => Store.register d
  | setRaw field row bytes => Store.setRaw field row bytes
  | setValue t field row v => Store.setValue t field row v
  | removeAt field row => Store.removeAt field row
  | copyValue field src dst => Store.copyValue field src dst
  | addFrame track frame => Store.addFrame track frame
  | detachFrame frame => Store.detachFrame frame

def succeeds (e : Edit) (s : Store) : Bool :=
  match e.perform s with
  | .ok .. => true
  | .error .. => false

/-- The store that a call leaves behind, whether or not it succeeds. -/
def after (e : Edit) (s : Store) : Store :=
  match e.perform s with
  | .ok _ t => t
  | .error _ t => t

end Edit

/-- The store after a sequence of calls. -/
def Store.run (s : Store) (es : List Edit) : Store := es.foldl (fun s e => e.after s) s

theorem Store.run_append (s : Store) (es fs : List Edit) : s.run (es ++ fs) = (s.run es).run fs :=
  List.foldl_append

/-- A store that some sequence of calls leads to from a new one. -/
def Store.Reachable (s : Store) : Prop := ∃ config es, s = (withConfig config).run es

/-- What a call does to a store where it is not refused. -/
inductive Change where
  | issue
  | declare (d : FieldDescriptor)
  | write (field : FieldId) (row : Row) (bytes : Bytes)
  | clear (field : FieldId) (row : Row)
  | join (track frame : Row)
  | leave (frame : Row)
  | drop (row : Row)

namespace Change

def apply (s : Store) : Change → Store
  | issue => { s with rows := s.rows.allocate.2 }
  | declare d => { s with registry := s.registry.append d, columns := s.columns.push ∅ }
  | write field row bytes => s.modifyColumn field (·.insert row bytes)
  | clear field row => s.modifyColumn field (·.erase row)
  | join track frame => s.join track frame
  | leave frame => s.leave frame
  | drop row => s.drop row

/-- What a call has checked before it makes the change. -/
def Allowed (s : Store) : Change → Prop
  | issue => True
  | declare d => s.registry.lookup d.name = none ∧ s.registry.size < Registry.maxFields
  | write field row _ => s.isLive row = true ∧ field.index < s.columns.size
  | clear field row => s.isLive row = true ∧ field.index < s.columns.size
  | join track frame =>
    s.isLive track = true ∧ s.isLive frame = true ∧ track ≠ frame ∧ s.owners[frame]? = none ∧
      s.framesOf frame = [] ∧ s.owners[track]? = none
  | leave frame => s.isLive frame = true
  | drop row => s.isLive row = true ∧ s.framesOf row = []

end Change

theorem Store.createRow_eq (s : Store) :
    createRow s = .ok s.rows.allocate.1 (Change.issue.apply s) := rfl

namespace Edit

/-- The change that a call makes, unless it is refused or has nothing to do. -/
def change (s : Store) : Edit → Option Change
  | createRow => some .issue
  | deleteRow row =>
    match s.mayDelete row with
    | .ok true => some (.drop row)
    | _ => none
  | register d =>
    match s.registry.register d with
    | .ok ((_, true), _) => some (.declare d)
    | _ => none
  | setRaw field row bytes =>
    match s.columnAt field row with
    | .ok _ => some (.write field row bytes)
    | .error _ => none
  | setValue t field row v =>
    match s.checkType t field, s.columnAt field row with
    | .ok _, .ok _ => some (.write field row (t.encode v))
    | _, _ => none
  | removeAt field row =>
    match s.columnAt field row with
    | .ok _ => some (.clear field row)
    | .error _ => none
  | copyValue field src dst =>
    match s.checkRow src, s.columnAt field dst with
    | .ok _, .ok column => column[src]?.map (.write field dst)
    | _, _ => none
  | addFrame track frame =>
    match s.mayJoin track frame with
    | .ok true => some (.join track frame)
    | _ => none
  | detachFrame frame =>
    match s.checkRow frame with
    | .ok _ => some (.leave frame)
    | .error _ => none

/-- Whether a call is refused, and what it answers where it is not. -/
def verdict (s : Store) : (e : Edit) → Except Error e.Answer
  | createRow => .ok s.rows.allocate.1
  | deleteRow row => (s.mayDelete row).map fun _ => ()
  | register d => (s.registry.register d).map (·.1.1)
  | setRaw field row _ => (s.columnAt field row).map fun _ => ()
  | setValue t field row _ =>
    match s.checkType t field with
    | .ok _ => (s.columnAt field row).map fun _ => ()
    | .error e => .error e
  | removeAt field row => s.hasValue field row
  | copyValue field src dst =>
    match s.checkRow src with
    | .ok _ => (s.columnAt field dst).map fun _ => ()
    | .error e => .error e
  | addFrame track frame => (s.mayJoin track frame).map fun _ => ()
  | detachFrame frame => s.owningTrack frame

/-- A call that is refused leaves the store as it is, and one that is not makes its change. -/
theorem perform_eq (e : Edit) (s : Store) :
    e.perform s = match e.verdict s with
      | .ok answer => .ok answer (((e.change s).map (·.apply s)).getD s)
      | .error err => .error err s := by
  cases e with
  | createRow => rfl
  | deleteRow row =>
    simp only [perform, Store.deleteRow_apply, verdict, change]
    rcases s.mayDelete row with e | (_ | _) <;> rfl
  | register d =>
    simp only [perform, Store.register_apply, verdict, change]
    rcases h : s.registry.register d with e | ⟨⟨field, _ | _⟩, registry⟩
    · rfl
    · rfl
    · obtain ⟨-, -, -, rfl⟩ := (Registry.register_eq_new ..).mp h
      rfl
  | setRaw field row bytes =>
    simp only [perform, Store.setRaw_apply, verdict, change]
    cases s.columnAt field row <;> rfl
  | setValue t field row v =>
    simp only [perform, Store.setValue_apply, Store.setRaw_apply, verdict, change]
    cases s.checkType t field <;> cases s.columnAt field row <;> rfl
  | removeAt field row =>
    simp only [perform, Store.removeAt_apply, Store.hasValue, verdict, change]
    cases s.columnAt field row <;> rfl
  | copyValue field src dst =>
    simp only [perform, Store.copyValue_apply, verdict, change]
    cases s.checkRow src with
    | error e => rfl
    | ok _ =>
      cases s.columnAt field dst with
      | error e => rfl
      | ok column => cases h : column[src]? <;> simp [h, Except.map, Change.apply]
  | addFrame track frame =>
    simp only [perform, Store.addFrame_apply, verdict, change]
    rcases s.mayJoin track frame with e | (_ | _) <;> rfl
  | detachFrame frame =>
    simp only [perform, Store.detachFrame_apply, Store.owningTrack, verdict, change]
    cases s.checkRow frame <;> rfl

/-- A call that is refused makes no change. -/
theorem change_of_refused {e : Edit} {s : Store} {err : Error} (h : e.verdict s = .error err) :
    e.change s = none := by
  cases e with
  | createRow => cases h
  | deleteRow row =>
    simp only [verdict] at h
    rcases hm : s.mayDelete row with e | (_ | _) <;> simp [hm, Except.map, change] at h ⊢
  | register d =>
    simp only [verdict] at h
    cases hr : s.registry.register d <;> simp [hr, Except.map, change] at h ⊢
  | setRaw field row bytes =>
    simp only [verdict] at h
    cases hc : s.columnAt field row <;> simp [hc, Except.map, change] at h ⊢
  | setValue t field row v =>
    simp only [verdict] at h
    cases ht : s.checkType t field <;> cases hc : s.columnAt field row <;>
      simp [ht, hc, Except.map, change] at h ⊢
  | removeAt field row =>
    simp only [verdict, Store.hasValue] at h
    cases hc : s.columnAt field row <;>
      simp [hc, bind, Except.bind, pure, Except.pure, change] at h ⊢
  | copyValue field src dst =>
    simp only [verdict] at h
    cases hsrc : s.checkRow src <;> cases hdst : s.columnAt field dst <;>
      simp [hsrc, hdst, Except.map, change] at h ⊢
  | addFrame track frame =>
    simp only [verdict] at h
    cases hm : s.mayJoin track frame <;> simp [hm, Except.map, change] at h ⊢
  | detachFrame frame =>
    simp only [verdict, Store.owningTrack] at h
    cases hc : s.checkRow frame <;>
      simp [hc, bind, Except.bind, pure, Except.pure, change] at h ⊢

theorem after_eq (e : Edit) (s : Store) : e.after s = ((e.change s).map (·.apply s)).getD s := by
  rw [after, perform_eq]
  cases h : e.verdict s with
  | ok answer => rfl
  | error err => simp [change_of_refused h]

theorem change_allowed {e : Edit} {s : Store} {c : Change} (h : e.change s = some c) :
    c.Allowed s := by
  have write_allowed {field row column} (hc : s.columnAt field row = .ok column) :
      s.isLive row = true ∧ field.index < s.columns.size := by
    obtain ⟨hlive, hcol⟩ := (Store.columnAt_eq_ok ..).mp hc
    exact ⟨hlive, (Array.getElem?_eq_some_iff.mp hcol).1⟩
  cases e <;> simp only [change] at h
  case createRow => cases h; trivial
  case deleteRow row =>
    split at h <;> cases h
    exact (Store.mayDelete_eq_true ..).mp ‹_›
  case register d =>
    split at h <;> cases h
    obtain ⟨hnew, hsize, -⟩ := (Registry.register_eq_new ..).mp ‹_›
    exact ⟨hnew, hsize⟩
  case setRaw => split at h <;> cases h; exact write_allowed ‹_›
  case setValue => split at h <;> cases h; exact write_allowed ‹_›
  case removeAt => split at h <;> cases h; exact write_allowed ‹_›
  case copyValue =>
    split at h
    · obtain ⟨bytes, -, rfl⟩ := Option.map_eq_some_iff.mp h
      exact write_allowed ‹_›
    · cases h
  case addFrame =>
    split at h <;> cases h
    exact (Store.mayJoin_eq_true ..).mp ‹_›
  case detachFrame =>
    split at h <;> cases h
    exact (Store.checkRow_eq_ok ..).mp ‹_›

/-- What a call can do to a store. -/
theorem after_cases (e : Edit) (s : Store) :
    e.after s = s ∨ ∃ c : Change, c.Allowed s ∧ e.after s = c.apply s := by
  rw [after_eq]
  cases h : e.change s with
  | none => exact .inl rfl
  | some c => exact .inr ⟨c, change_allowed h, rfl⟩

end Edit

namespace Store

/-- What every allowed change keeps, every run keeps. -/
theorem run_keeps {P : Store → Prop} (hstep : ∀ s (c : Change), c.Allowed s → P s → P (c.apply s))
    {s : Store} (hs : P s) (es : List Edit) : P (s.run es) := by
  induction es generalizing s with
  | nil => exact hs
  | cons e es ih =>
    have hnext : P (e.after s) := by
      rcases e.after_cases s with h | ⟨c, hc, h⟩
      · rw [h]
        exact hs
      · rw [h]
        exact hstep s c hc hs
    exact ih hnext

end Store
end TrackStore
