import TrackStore.Store.Basic

/-! # Cursors

A host is a handle on a cursor, and a cursor selects one row or none. Several handles can share a
cursor: what one of them selects, all see. Where a host selects no live row, there is no row to
work on.
-/

namespace TrackStore

/-- Hosts are equal when they share their cursor. -/
structure Host where
  cell : Nat
deriving DecidableEq, Repr

/-- What every cursor selects. -/
structure Cursors where
  cells : Array (Option Row)
deriving DecidableEq, Repr

namespace Cursors

def empty : Cursors := ⟨#[]⟩

/-- A new cursor, which selects nothing. -/
def new (c : Cursors) : Host × Cursors := (⟨c.cells.size⟩, ⟨c.cells.push none⟩)

def selected (c : Cursors) (host : Host) : Option Row := c.cells[host.cell]?.join

def select (c : Cursors) (host : Host) (row : Option Row) : Cursors :=
  ⟨c.cells.modify host.cell fun _ => row⟩

theorem selected_new (c : Cursors) (host : Host) : c.new.2.selected host = c.selected host := by
  simp only [selected, new, Array.getElem?_push]
  by_cases h : host.cell = c.cells.size <;> simp [h]

theorem selected_select (c : Cursors) (host other : Host) (row : Option Row)
    (h : host.cell < c.cells.size) :
    (c.select host row).selected other = if other = host then row else c.selected other := by
  simp only [selected, select, Array.getElem?_modify]
  by_cases e : other = host
  · subst e
    simp [h]
  · have : host.cell ≠ other.cell := fun hc => e (by cases host; cases other; simp_all)
    simp [e, this]

/-- The row that a host selects, which has to be live. -/
def resolve (c : Cursors) (host : Host) (s : Store) : Except Error Row :=
  match c.selected host with
  | none => .error .unboundCursor
  | some row => if s.isLive row then .ok row else .error (.staleCursor row)

end Cursors

/-- A store and the cursors over it. -/
structure Workspace where
  store : Store
  cursors : Cursors

abbrev WorkspaceM := EStateM Error Workspace

namespace Workspace

variable {α : Type}

/-- Works on the store alone. -/
def onStore (work : StoreM α) : WorkspaceM α := fun w =>
  match work w.store with
  | .ok a store => .ok a { w with store }
  | .error e store => .error e { w with store }

def newHost : WorkspaceM Host :=
  modifyGet fun w =>
    let (host, cursors) := w.cursors.new
    (host, { w with cursors })

theorem newHost_apply (w : Workspace) :
    newHost w = .ok w.cursors.new.1 { w with cursors := w.cursors.new.2 } := rfl

def select (host : Host) (row : Option Row) : WorkspaceM Unit :=
  modify fun w => { w with cursors := w.cursors.select host row }

/-- The row that a host selects, which has to be live. -/
def resolve (w : Workspace) (host : Host) : Except Error Row := w.cursors.resolve host w.store

/-- Reads the store and the cursors and leaves them as they are. -/
def query (read : Workspace → Except Error α) : WorkspaceM α := fun w =>
  match read w with
  | .ok a => .ok a w
  | .error e => .error e w

end Workspace
end TrackStore
