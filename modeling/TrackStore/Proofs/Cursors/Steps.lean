import TrackStore.Proofs.Cursors.Session
import TrackStore.Proofs.TypeSafety

/-! # One step of a program

An action moves the cursor of the host that it works through, if there is one, and all others stay.
What it gets for the program is bound to cursors that the program could name, or to a new one.
-/
namespace TrackStore

namespace Accessor

variable {t : FieldType}

theorem host_of_registerDescribed {d : FieldDescriptor} {s s' : Store} {a : Accessor t}
    (h : registerDescribed t d s = .ok a s') : a.host = none := by
  obtain ⟨field, u, -, h⟩ := Store.bind_eq_ok.mp h
  cases h
  rfl

theorem host_of_existing {s : Store} {name : String} {a : Accessor t}
    (h : existing t s name = .ok (some a)) : a.host = none := by
  unfold existing at h
  split at h
  next => cases h
  next field hfield =>
    simp only [Bind.bind, Except.bind] at h
    split at h
    next => cases h
    next d hd =>
      split at h
      next =>
        cases h
        rfl
      next => cases h

end Accessor

namespace Workspace

theorem leaves_select (w : Workspace) (host : Host) (row : Option Row) :
    Leaves (select host row) w (w.cursors.select host row) fun _ => True := ⟨rfl, trivial⟩

theorem leaves_set {t : FieldType} (a : Accessor t) (v : t.Value) (w : Workspace) :
    Leaves (a.set v) w w.cursors fun _ => True := by
  cases hrow : a.selectedRow w with
  | ok row =>
    rw [Leaves, Accessor.set_of_selectedRow hrow v]
    exact leaves_onStore fun _ _ _ => trivial
  | error e => rw [Leaves, Accessor.set_of_error hrow v]

/-- A row is selected if it is created. -/
theorem leaves_created (s : Schema) (work : StoreM Row) (w : Workspace) :
    Leaves (do let row ← onStore work; s.select row; return row) w
      (match Store.answer? work w.store with
        | some row => w.cursors.select s.host (some row)
        | none => w.cursors) fun _ => True := by
  simp only [Leaves, bind, EStateM.bind, onStore, Store.answer?]
  cases hwork : work w.store with
  | ok row t => exact ⟨rfl, trivial⟩
  | error e t => exact rfl

end Workspace

namespace Session

/-- The host was held before, or it is new. -/
def Gets (s t : Session) (host : Host) : Prop :=
  s.Holds host ∨ host = s.space.cursors.new.1 ∧ host.cell < t.space.cursors.cells.size

/-- What an action does to the cursors and to what is held. It puts at most one row on one cursor,
and what the program gets is bound to cursors that it knew, or to a new one. -/
structure Step (s : Session) (put : Host → Option (Option Row)) (t : Session) : Prop where
  size : s.space.cursors.cells.size ≤ t.space.cursors.cells.size
  selected : ∀ host, t.space.cursors.selected host =
    (put host).getD (s.space.cursors.selected host)
  gets : ∀ host, t.Holds host → s.Gets t host
  bound : ∀ x ∈ t.schemas, x ∈ s.schemas ∨ x.BoundTo x.schema.host

variable {s t : Session}

theorem Sound.step {put : Host → Option (Option Row)} (hs : s.Sound) (h : s.Step put t) :
    t.Sound where
  known host hheld := by
    rcases h.gets host hheld with hold | ⟨-, hnew⟩
    · exact Nat.lt_of_lt_of_le (hs.known host hold) h.size
    · exact hnew
  bound x hx := (h.bound x hx).elim (hs.bound x) id

theorem holds_of_host? {h : HostName} {host : Host} (hh : s.host? h = some host) :
    s.Holds host := by
  cases h with
  | held i => exact .inl (List.mem_of_getElem? hh)
  | ofAccessor i =>
    obtain ⟨x, hx, hhost⟩ := Option.bind_eq_some_iff.mp hh
    exact .inr (.inl ⟨x, List.mem_of_getElem? hx, hhost⟩)
  | ofSchema i =>
    obtain ⟨x, hx, hhost⟩ := Option.map_eq_some_iff.mp hh
    exact .inr (.inr ⟨x, List.mem_of_getElem? hx, hhost⟩)

-- The cursors stay, there is a new one, or one of them is moved.
section Space
variable {w : Workspace}

theorem step_same (hw : w.cursors = s.space.cursors) :
    s.Step (fun _ => none) { s with space := w } where
  size := by rw [hw]
  selected host := by rw [hw]; rfl
  gets host h := .inl h
  bound x hx := .inl hx

theorem step_new (hw : w.cursors = s.space.cursors.new.2) :
    s.Step (fun _ => none) { s with space := w } where
  size := by simp [hw, Cursors.new]
  selected host := by
    rw [hw]
    exact s.space.cursors.selected_new host
  gets host h := .inl h
  bound x hx := .inl hx

theorem step_select {host : Host} {row : Option Row} (hs : s.Sound) (hhost : s.Holds host)
    (hw : w.cursors = s.space.cursors.select host row) :
    s.Step (fun other => if host = other then some row else none) { s with space := w } where
  size := by simp [hw, Cursors.select]
  selected other := by
    rw [hw]
    refine (s.space.cursors.selected_select host other row (hs.known host hhost)).trans ?_
    by_cases h : host = other
    · rw [if_pos h.symm, if_pos h]
      rfl
    · rw [if_neg (Ne.symm h), if_neg h]
      rfl
  gets host h := .inl h
  bound x hx := .inl hx

end Space

-- What is kept of an answer moves no cursor.
namespace Step
variable {put : Host → Option (Option Row)} {host : Host} {x : Sigma Accessor}

theorem addHost (h : s.Step put t) (hhost : s.Gets t host) : s.Step put (t.addHost host) where
  size := h.size
  selected := h.selected
  bound := h.bound
  gets other := by
    rintro (hother | hother)
    · rcases List.mem_append.mp hother with hother | hother
      · exact h.gets other (.inl hother)
      · rw [List.mem_singleton.mp hother]
        exact hhost
    · exact h.gets other (.inr hother)

/-- Accessors that were held before or are bound to such a host. -/
theorem withAccessors (h : s.Step put t) {accessors : List (Sigma Accessor)}
    (hx : ∀ x ∈ accessors, x ∈ t.accessors ∨ ∀ host, x.2.host = some host → s.Gets t host) :
    s.Step put { t with accessors } where
  size := h.size
  selected := h.selected
  bound := h.bound
  gets other := by
    rintro (hother | ⟨x, hmem, hother⟩ | hother)
    · exact h.gets other (.inl hother)
    · rcases hx x hmem with hold | hnew
      · exact h.gets other (.inr (.inl ⟨x, hold, hother⟩))
      · exact hnew other hother
    · exact h.gets other (.inr (.inr hother))

theorem addAccessor (h : s.Step put t) (hx : ∀ host, x.2.host = some host → s.Gets t host) :
    s.Step put (t.addAccessor x) := by
  refine h.withAccessors fun y hy => ?_
  rcases List.mem_append.mp hy with hy | hy
  · exact .inl hy
  · rw [List.mem_singleton.mp hy]
    exact .inr hx

theorem replaceAccessor (h : s.Step put t) (i : Nat)
    (hx : ∀ host, x.2.host = some host → s.Gets t host) :
    s.Step put (t.replaceAccessor i x) := by
  refine h.withAccessors fun y hy => ?_
  rcases List.mem_or_eq_of_mem_set hy with hy | rfl
  · exact .inl hy
  · exact .inr hx

theorem addSchema {x : AnySchema} (h : s.Step put t) (hx : x.BoundTo host)
    (hhost : s.Gets t host) : s.Step put (t.addSchema x) where
  size := h.size
  selected := h.selected
  bound y hy := by
    rcases List.mem_append.mp hy with hy | hy
    · exact h.bound y hy
    · rw [List.mem_singleton.mp hy]
      exact .inr (hx.1 ▸ hx)
  gets other := by
    rintro (hother | ⟨y, hy, hother⟩ | ⟨y, hy, hother⟩)
    · exact h.gets other (.inl hother)
    · rcases List.mem_append.mp hy with hy | hy
      · exact h.gets other (.inr (.inl ⟨y, hy, hother⟩))
      · cases (hx.2 y hy).symm.trans hother
        exact hhost
    · rcases List.mem_append.mp hy with hy | hy
      · exact h.gets other (.inr (.inr ⟨y, hy, hother⟩))
      · rw [List.mem_singleton.mp hy, hx.1] at hother
        exact hother ▸ hhost

end Step

/-- What holds whatever the work answers, and also if it fails. -/
theorem perform_cases {α : Type} {work : WorkspaceM α} {keep : Session → α → Session} {c : Cursors}
    {P : α → Prop} {Q : Session → Prop} (h : Workspace.Leaves work s.space c P)
    (hkeep : ∀ a w, w.cursors = c → P a → Q (keep { s with space := w } a))
    (hfail : ∀ w : Workspace, w.cursors = c → Q { s with space := w }) :
    Q (s.perform work keep) := by
  unfold Workspace.Leaves at h
  unfold perform
  cases hwork : work s.space with
  | ok a w =>
    rw [hwork] at h
    exact hkeep a w h.1 h.2
  | error e w =>
    rw [hwork] at h
    exact hfail w h

/-- Work that leaves the cursors alone, or leaves them with a new one, or moves one of them. -/
theorem step_perform {α : Type} {work : WorkspaceM α} {c : Cursors} {P : α → Prop}
    {put : Host → Option (Option Row)} (h : Workspace.Leaves work s.space c P)
    (hstep : ∀ w : Workspace, w.cursors = c → s.Step put { s with space := w }) :
    s.Step put (s.perform work fun s _ => s) :=
  perform_cases h (fun _ w hw _ => hstep w hw) hstep

theorem gets_new {w : Workspace} (hw : w.cursors = s.space.cursors.new.2) :
    s.Gets { s with space := w } s.space.cursors.new.1 := by
  refine .inr ⟨rfl, ?_⟩
  simp [hw, Cursors.new]

/-- Nothing happens where the program names what it does not hold. -/
theorem step_elim {α : Type} {found : Option α} {next : α → Session}
    (h : ∀ x, found = some x → s.Step (fun _ => none) (next x)) :
    s.Step (fun _ => none) (found.elim s next) := by
  cases found with
  | none => exact step_same rfl
  | some x => exact h x rfl

theorem step_put (hs : s.Sound) (h : HostName) (row : Option Row) :
    s.Step (fun other => (s.host? h).bind fun host => if host = other then some row else none)
      ((s.host? h).elim s fun host => s.perform (Workspace.select host row) fun s _ => s) := by
  cases hh : s.host? h with
  | none => exact step_same rfl
  | some host =>
    exact step_perform (Workspace.leaves_select s.space host row) fun w hw =>
      step_select hs (holds_of_host? hh) hw

/-- A row is selected through a schema if it is created. -/
theorem step_created (hs : s.Sound) (i : Nat) (work : StoreM Row) :
    s.Step (fun other => (s.schemas[i]?.map (·.schema.host)).bind fun host =>
        if host = other then (Store.answer? work s.space.store).map some else none)
      (s.schemas[i]?.elim s fun x =>
        s.perform (do let row ← Workspace.onStore work; x.schema.select row; return row)
          fun s _ => s) := by
  cases hx : s.schemas[i]? with
  | none => exact step_same rfl
  | some x =>
    refine step_perform (Workspace.leaves_created x.schema work s.space) fun w hw => ?_
    cases hrow : Store.answer? work s.space.store with
    | some row =>
      rw [hrow] at hw
      exact step_select hs (.inr (.inr ⟨x, List.mem_of_getElem? hx, rfl⟩)) hw
    | none =>
      rw [hrow] at hw
      simpa using step_same hw

/-- An accessor that is bound to a host that the program can name. -/
theorem gets_of_bind {h : HostName} {host other : Host} {x : Sigma Accessor}
    (hh : s.host? h = some host) (hother : (x.2.bind host).host = some other) : s.Gets s other := by
  cases hother
  exact .inl (holds_of_host? hh)

/-- Every action moves at most the cursor that it works through, and what the program gets is bound
to cursors that it knows. -/
theorem step_after (hs : s.Sound) (a : Action) : s.Step (s.putOn · a) (s.after a) := by
  have stays : s.Step (fun _ => none) s := step_same rfl
  cases a with
  | newHost =>
    show s.Step (fun _ => none) (s.perform Workspace.newHost addHost)
    refine perform_cases (Workspace.leaves_newHost s.space) (fun host w hw hhost => ?_)
      fun w hw => step_new hw
    rw [hhost]
    exact (step_new hw).addHost (gets_new hw)
  | copyHost h => exact step_elim fun host hh => stays.addHost (.inl (holds_of_host? hh))
  | select h row => exact step_put hs h (some row)
  | clear h => exact step_put hs h none
  | register t d =>
    show s.Step (fun _ => none) (s.perform _ fun s a => s.addAccessor ⟨t, a⟩)
    refine perform_cases (Workspace.leaves_onStore fun _ _ => Accessor.host_of_registerDescribed)
      (fun a w hw ha => ?_) fun w hw => step_same hw
    exact (step_same hw).addAccessor fun host hhost => nomatch ha.symm.trans hhost
  | existing t name =>
    show s.Step (fun _ => none) _
    simp only [after]
    split
    next a ha =>
      have hhost := Accessor.host_of_existing ha
      exact stays.addAccessor fun host hother => nomatch hhost.symm.trans hother
    next => exact stays
  | bind i h =>
    exact step_elim fun x _ => step_elim fun host hh =>
      stays.replaceAccessor i fun other => gets_of_bind hh
  | unbind i => exact step_elim fun x _ => stays.replaceAccessor i nofun
  | rebound i h =>
    exact step_elim fun x _ => step_elim fun host hh =>
      stays.addAccessor fun other => gets_of_bind hh
  | copyAccessor i => exact step_elim fun x _ => stays.addAccessor nofun
  | make kind =>
    show s.Step (fun _ => none) (s.perform kind.make addSchema)
    refine perform_cases (kind.leaves_make s.space) (fun x w hw hx => ?_) fun w hw => step_new hw
    exact (step_new hw).addSchema hx.boundTo (gets_new hw)
  | clone i =>
    refine step_elim fun x _ => ?_
    refine perform_cases (x.leaves_clone s.space) (fun y w hw hy => ?_) fun w hw => step_new hw
    exact (step_new hw).addSchema hy (gets_new hw)
  | createTrack i => exact step_created hs i Store.createRow
  | createFrame i track => exact step_created hs i (Schema.newFrame track)
  | set i v =>
    exact step_elim fun x _ =>
      step_perform (Workspace.leaves_set x.2 (v x.1) s.space) fun w => step_same
  | work program =>
    show s.Step (fun _ => none) (s.perform _ fun s _ => s)
    exact step_perform (Workspace.leaves_onStore fun _ _ _ => trivial) fun w => step_same

end Session
end TrackStore
