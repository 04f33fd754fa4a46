import TrackStore.Proofs.Cursors.Steps

/-! # Whose cursor an accessor follows

A run is a sequence of steps, and each moves at most the cursor that it works through. So what a
host selects is what was put on its cursor last, through whatever handle, and an accessor works at
that row for as long as it is live. Which cursor that is changes with its host: a copy of a host
shares the cursor, and a copy of an accessor has no host.
-/
namespace TrackStore

namespace Accessor

variable {t : FieldType}

/-- Access at the selected row is access at the given one. -/
structure WorksAt (a : Accessor t) (w : Workspace) (row : Row) : Prop where
  get : a.get w = a.getAt w.store row
  set : ∀ v, a.set v w = Workspace.onStore (a.setAt row v) w
  hasValue : a.hasValue w = a.hasValueAt w.store row

/-- Access at the selected row fails, and nothing changes. -/
structure FailsWith (a : Accessor t) (w : Workspace) (e : Error) : Prop where
  get : a.get w = .error e
  set : ∀ v, a.set v w = .error e w
  hasValue : a.hasValue w = .error e

/-- Access at the selected row, where `last` is the row that was put on the cursor last. -/
structure Follows (a : Accessor t) (w : Workspace) (last : Option Row) : Prop where
  live : ∀ row, last = some row → w.store.isLive row = true → a.WorksAt w row
  stale : ∀ row, last = some row → w.store.isLive row = false →
    a.FailsWith w (.staleCursor row)
  unset : last = none → a.FailsWith w .unboundCursor

variable {a : Accessor t} {w : Workspace}

theorem worksAt_of_selectedRow {row : Row} (h : a.selectedRow w = .ok row) : a.WorksAt w row where
  get := by simp only [get, h, Bind.bind, Except.bind, getAt]
  set := set_of_selectedRow h
  hasValue := by simp only [hasValue, h, Bind.bind, Except.bind, hasValueAt]

theorem failsWith_of_selectedRow {e : Error} (h : a.selectedRow w = .error e) :
    a.FailsWith w e where
  get := by simp only [get, h, Bind.bind, Except.bind]
  set := set_of_error h
  hasValue := by simp only [hasValue, h, Bind.bind, Except.bind]

theorem follows_selected (a : Accessor t) (w : Workspace) :
    a.Follows w (a.host.bind w.cursors.selected) := by
  have hrow : a.selectedRow w = (a.host.bind w.cursors.selected).elim (.error .unboundCursor)
      fun row => if w.store.isLive row then .ok row else .error (.staleCursor row) := by
    rw [selectedRow]
    cases a.host with
    | none => rfl
    | some host =>
      simp only [Workspace.resolve, Cursors.resolve, Option.bind_some]
      cases w.cursors.selected host <;> rfl
  constructor
  case live =>
    intro row hlast hlive
    refine worksAt_of_selectedRow (hrow.trans ?_)
    simp [hlast, hlive]
  case stale =>
    intro row hlast hlive
    refine failsWith_of_selectedRow (hrow.trans ?_)
    simp [hlast, hlive]
  case unset =>
    intro hlast
    exact failsWith_of_selectedRow (hrow.trans (by rw [hlast, Option.elim_none]))

end Accessor

theorem AnySchema.name_withHost (x : AnySchema) (host : Host) :
    (x.withHost host).schema.name = x.schema.name := by
  cases x <;> rfl

theorem AnySchema.fields_withHost (x : AnySchema) (host : Host) (container : Container) :
    (x.withHost host).schema.fields container = x.schema.fields container := by
  cases x <;> rfl

theorem AnySchema.refs_withHost (x : AnySchema) (host : Host) :
    (x.withHost host).accessors.map (·.2.ref) = x.accessors.map (·.2.ref) := by
  cases x with
  | custom accessors s => exact List.map_map.trans rfl
  | _ => rfl

namespace Session

/-- The cursor of the host is one that nothing else shared and that selects nothing. -/
structure Unshared (s t : Session) (host : Host) : Prop where
  new : ¬ s.Holds host
  unset : t.space.cursors.selected host = none

/-- The program got a copy of a schema, with the same accessors and the same fields in the same
containers, and a cursor of its own. -/
structure Copies (s : Session) (x y : AnySchema) (t : Session) : Prop where
  schemas : t.schemas = s.schemas ++ [y]
  name : y.schema.name = x.schema.name
  fields : ∀ container, y.schema.fields container = x.schema.fields container
  refs : y.accessors.map (·.2.ref) = x.accessors.map (·.2.ref)
  bound : ∀ z ∈ y.accessors, z.2.host = some y.schema.host
  unshared : s.Unshared t y.schema.host
  store : t.space.store = s.space.store

/-- What becomes of the accessor that the program holds at a place. Unbound and copied it has no
host, and cannot be used at a selected row; bound it has the host that was named. Nothing else that
the program holds is different, and neither are the store and the cursors. -/
structure Rehosts (s : Session) (i : Nat) (x : Sigma Accessor) : Prop where
  unbind : s.after (.unbind i) =
    { s with accessors := s.accessors.set i ⟨x.1, { x.2 with host := none }⟩ }
  copy : s.after (.copyAccessor i) =
    { s with accessors := s.accessors ++ [⟨x.1, { x.2 with host := none }⟩] }
  hostless : Accessor.FailsWith ({ x.2 with host := none } : Accessor x.1) s.space .unboundCursor
  bind : ∀ h host, s.host? h = some host → s.after (.bind i h) =
    { s with accessors := s.accessors.set i ⟨x.1, { x.2 with host := some host }⟩ }
  rebound : ∀ h host, s.host? h = some host → s.after (.rebound i h) =
    { s with accessors := s.accessors ++ [⟨x.1, { x.2 with host := some host }⟩] }

/-- The hosts that the program gets. A copy is the same host, on the same cursor; a new host and a
new schema have a cursor of their own; and an accessor that is registered or looked up has none. -/
structure Hosts (s : Session) : Prop where
  copy : ∀ h host, s.host? h = some host →
    s.after (.copyHost h) = { s with hosts := s.hosts ++ [host] }
  new : ∃ host, (s.after .newHost).hosts = s.hosts ++ [host] ∧ s.Unshared (s.after .newHost) host
  make : ∀ kind x w, kind.make s.space = .ok x w →
    (s.after (.make kind)).schemas = s.schemas ++ [x] ∧
      s.Unshared (s.after (.make kind)) x.schema.host
  register : ∀ t d (a : Accessor t) w,
    Workspace.onStore (Accessor.registerDescribed t d) s.space = .ok a w →
      (s.after (.register t d)).accessors = s.accessors ++ [⟨t, a⟩] ∧ a.host = none
  existing : ∀ t name (a : Accessor t), Accessor.existing t s.space.store name = .ok (some a) →
    (s.after (.existing t name)).accessors = s.accessors ++ [⟨t, a⟩] ∧ a.host = none

variable {s : Session}

theorem Sound.unshared (hs : s.Sound) {t : Session} (ht : t.space.cursors = s.space.cursors.new.2) :
    s.Unshared t s.space.cursors.new.1 where
  new hheld := Nat.lt_irrefl _ (hs.known _ hheld)
  unset := by simp [ht, Cursors.selected, Cursors.new]

theorem copies_clone (hs : s.Sound) {i : Nat} {x : AnySchema} (hx : s.schemas[i]? = some x) :
    ∃ y, s.Copies x y (s.after (.clone i)) := by
  have hbound := x.boundTo_withHost s.space.cursors.new.1
  have hafter : s.after (.clone i) =
      { s with space := ⟨s.space.store, s.space.cursors.new.2⟩ }.addSchema
        (x.withHost s.space.cursors.new.1) := by
    simp only [after, hx, Option.elim_some, perform, x.clone_apply]
  refine ⟨x.withHost s.space.cursors.new.1, ?_⟩
  rw [hafter]
  constructor
  case schemas => rfl
  case name => exact x.name_withHost _
  case fields => exact x.fields_withHost _
  case refs => exact x.refs_withHost _
  case bound =>
    rw [hbound.1]
    exact hbound.2
  case unshared =>
    rw [hbound.1]
    exact hs.unshared rfl
  case store => rfl

theorem rehosts {i : Nat} {x : Sigma Accessor} (hx : s.accessors[i]? = some x) : s.Rehosts i x := by
  constructor
  case unbind =>
    simp only [after, hx, Option.elim_some]
    rfl
  case copy =>
    simp only [after, hx, Option.elim_some]
    rfl
  case hostless => exact (Accessor.follows_selected _ s.space).unset rfl
  case bind =>
    intro h host hh
    simp only [after, hx, hh, Option.elim_some]
    rfl
  case rebound =>
    intro h host hh
    simp only [after, hx, hh, Option.elim_some]
    rfl

theorem Sound.hosts (hs : s.Sound) : s.Hosts where
  copy h host hh := by
    simp only [after, hh, Option.elim_some]
    rfl
  new := ⟨_, rfl, hs.unshared rfl⟩
  make kind x w h := by
    have hleaves := kind.leaves_make s.space
    rw [Workspace.Leaves, h] at hleaves
    obtain ⟨hw, hmade⟩ := hleaves
    have hafter : s.after (.make kind) = { s with space := w }.addSchema x := by
      simp only [after, perform, h]
    rw [hafter, hmade.boundTo.1]
    exact ⟨rfl, hs.unshared hw⟩
  register t d a w h := by
    have hleaves : Workspace.Leaves (Workspace.onStore (Accessor.registerDescribed t d)) s.space
        s.space.cursors fun b : Accessor t => b.host = none :=
      Workspace.leaves_onStore fun _ _ => Accessor.host_of_registerDescribed
    rw [Workspace.Leaves, h] at hleaves
    simp only [after, perform, h]
    exact ⟨rfl, hleaves.2⟩
  existing t name a h := by
    simp only [after, h]
    exact ⟨rfl, Accessor.host_of_existing h⟩

theorem Sound.run (hs : s.Sound) (as : List Action) : (s.run as).Sound := by
  induction as generalizing s with
  | nil => exact hs
  | cons a as ih => exact ih (hs.step (step_after hs a))

/-- A cursor that a run puts nothing on is where it was. -/
theorem selected_run (hs : s.Sound) (host : Host) (as : List Action) :
    (s.run as).space.cursors.selected host =
      (s.history host as).getLast?.getD (s.space.cursors.selected host) := by
  induction as generalizing s with
  | nil => rfl
  | cons a as ih =>
    have hstep := step_after hs a
    have hrun : s.run (a :: as) = (s.after a).run as := rfl
    rw [hrun, ih (hs.step hstep), hstep.selected host, history, List.getLast?_append]
    cases ((s.after a).history host as).getLast? with
    | some row => rfl
    | none => cases s.putOn host a <;> rfl

theorem putOn_of_through_ne (s : Session) {a : Action} {host : Host}
    (h : s.through a ≠ some host) : s.putOn host a = none := by
  rw [putOn]
  cases hthrough : s.through a with
  | none => rfl
  | some other =>
    have hne : other ≠ host := by
      rintro rfl
      exact h hthrough
    exact if_neg hne

theorem sound_start (config : Config) : (start config).Sound where
  known host h := by simp [Holds, start] at h
  bound := nofun

/-- After any run an accessor works at the row that was put on the cursor of its host last, if that
row is live. All accessors of a schema share its cursor, a copy of a schema has a cursor of its own,
and no action moves a cursor but the one that it works through. An accessor has the host that it was
bound to, and none where it was unbound, copied, registered or looked up; a copy of a host shares
its cursor, and a new one does not. -/
theorem cursors_run (config : Config) (as : List Action) :
    let s := (start config).run as
    (∀ host, s.space.cursors.selected host = (start config).lastOn host as) ∧
    (∀ t (a : Accessor t), a.Follows s.space (a.host.bind ((start config).lastOn · as))) ∧
    (∀ x ∈ s.schemas, ∀ y ∈ x.accessors, y.2.host = some x.schema.host) ∧
    (∀ i x, s.schemas[i]? = some x → ∃ y, s.Copies x y (s.after (.clone i))) ∧
    (∀ a host, s.through a ≠ some host →
      (s.after a).space.cursors.selected host = s.space.cursors.selected host) ∧
    (∀ i x, s.accessors[i]? = some x → s.Rehosts i x) ∧ s.Hosts := by
  intro s
  have hs : s.Sound := (sound_start config).run as
  have hselected (host : Host) :
      s.space.cursors.selected host = (start config).lastOn host as := by
    have hempty : (start config).space.cursors.selected host = none := rfl
    rw [selected_run (sound_start config), hempty, lastOn]
    cases ((start config).history host as).getLast? <;> rfl
  refine ⟨hselected, fun t a => ?_, fun x hx => (hs.bound x hx).2,
    fun i x hx => copies_clone hs hx, ?_, fun i x hx => rehosts hx, hs.hosts⟩
  · have hlast : a.host.bind ((start config).lastOn · as) =
        a.host.bind s.space.cursors.selected := by
      simp only [← hselected]
    rw [hlast]
    exact a.follows_selected s.space
  · intro a host hnot
    rw [(step_after hs a).selected host, s.putOn_of_through_ne hnot]
    rfl

end Session
end TrackStore
