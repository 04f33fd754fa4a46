import TrackStore.Proofs.Schemas
import TrackStore.Schema.Track

/-! # Programs with cursors

A program that works on one store holds hosts, accessors and schemas, and gets more of them as it
goes. It names each by its place among those it holds. Some of them share a cursor: a host with its
copies and with the accessors that were bound to it, a schema with the accessors of its fields.
-/
namespace TrackStore

structure Session where
  space : Workspace
  hosts : List Host
  accessors : List (Sigma Accessor)
  schemas : List AnySchema

/-- A host as a program names it: one that it holds, or the host of an accessor or of a schema. -/
inductive HostName where
  | held (i : Nat)
  | ofAccessor (i : Nat)
  | ofSchema (i : Nat)

/-- What a program does next. Where it names what it does not hold, nothing happens. -/
inductive Action where
  | newHost
  | copyHost (h : HostName)
  | select (h : HostName) (row : Row)
  | clear (h : HostName)
  | register (t : FieldType) (d : FieldDescriptor)
  | existing (t : FieldType) (name : String)
  | bind (i : Nat) (h : HostName)
  | unbind (i : Nat)
  | rebound (i : Nat) (h : HostName)
  /-- A copy of an accessor has no host. -/
  | copyAccessor (i : Nat)
  | make (kind : SchemaKind)
  | clone (i : Nat)
  | createTrack (i : Nat)
  | createFrame (i : Nat) (track : Row)
  /-- A value for an accessor of whatever type, at the row that its host selects. -/
  | set (i : Nat) (v : (t : FieldType) → t.Value)
  /-- Anything that is done to the store alone. -/
  | work (program : StoreM Unit)

namespace Session

/-- A new store, and nothing held. -/
def start (config : Config) : Session := ⟨⟨.withConfig config, .empty⟩, [], [], []⟩

def host? (s : Session) : HostName → Option Host
  | .held i => s.hosts[i]?
  | .ofAccessor i => s.accessors[i]?.bind (·.2.host)
  | .ofSchema i => s.schemas[i]?.map (·.schema.host)

def addHost (s : Session) (host : Host) : Session := { s with hosts := s.hosts ++ [host] }

def addAccessor (s : Session) (x : Sigma Accessor) : Session :=
  { s with accessors := s.accessors ++ [x] }

def replaceAccessor (s : Session) (i : Nat) (x : Sigma Accessor) : Session :=
  { s with accessors := s.accessors.set i x }

/-- A schema comes with its accessors. -/
def addSchema (s : Session) (x : AnySchema) : Session :=
  { s with schemas := s.schemas ++ [x], accessors := s.accessors ++ x.accessors }

/-- Works on the store and the cursors, and keeps what that answers if it succeeds. -/
def perform {α : Type} (s : Session) (work : WorkspaceM α) (keep : Session → α → Session) :
    Session :=
  match work s.space with
  | .ok a w => keep { s with space := w } a
  | .error _ w => { s with space := w }

def after (s : Session) : Action → Session
  | .newHost => s.perform Workspace.newHost addHost
  | .copyHost h => (s.host? h).elim s s.addHost
  | .select h row => (s.host? h).elim s fun host =>
      s.perform (Workspace.select host (some row)) fun s _ => s
  | .clear h => (s.host? h).elim s fun host =>
      s.perform (Workspace.select host none) fun s _ => s
  | .register t d => s.perform (Workspace.onStore (Accessor.registerDescribed t d)) fun s a =>
      s.addAccessor ⟨t, a⟩
  | .existing t name => match Accessor.existing t s.space.store name with
    | .ok (some a) => s.addAccessor ⟨t, a⟩
    | _ => s
  | .bind i h => s.accessors[i]?.elim s fun x => (s.host? h).elim s fun host =>
      s.replaceAccessor i ⟨x.1, x.2.bind host⟩
  | .unbind i => s.accessors[i]?.elim s fun x => s.replaceAccessor i ⟨x.1, x.2.unbind⟩
  | .rebound i h => s.accessors[i]?.elim s fun x => (s.host? h).elim s fun host =>
      s.addAccessor ⟨x.1, x.2.bind host⟩
  | .copyAccessor i => s.accessors[i]?.elim s fun x => s.addAccessor ⟨x.1, x.2.unbind⟩
  | .make kind => s.perform kind.make addSchema
  | .clone i => s.schemas[i]?.elim s fun x => s.perform x.clone addSchema
  | .createTrack i => s.schemas[i]?.elim s fun x =>
      s.perform x.schema.createTrack fun s _ => s
  | .createFrame i track => s.schemas[i]?.elim s fun x =>
      s.perform (x.schema.createFrame track) fun s _ => s
  | .set i v => s.accessors[i]?.elim s fun x => s.perform (x.2.set (v x.1)) fun s _ => s
  | .work program => s.perform (Workspace.onStore program) fun s _ => s

def run (s : Session) (as : List Action) : Session := as.foldl after s

end Session

/-- What work on the store answers, if it succeeds. -/
def Store.answer? {α : Type} (work : StoreM α) (s : Store) : Option α :=
  match work s with
  | .ok a _ => some a
  | .error .. => none

namespace Session

/-- The host through which an action selects or clears, if it is one that does. -/
def through (s : Session) : Action → Option Host
  | .select h _ | .clear h => s.host? h
  | .createTrack i | .createFrame i _ => s.schemas[i]?.map (·.schema.host)
  | _ => none

/-- What an action puts on the cursor that it works through: a row, or no row. A frame that is not
created is not selected. -/
def put (s : Session) : Action → Option (Option Row)
  | .select _ row => some (some row)
  | .clear _ => some none
  | .createTrack _ => (Store.answer? Store.createRow s.space.store).map some
  | .createFrame _ track => (Store.answer? (Schema.newFrame track) s.space.store).map some
  | _ => none

def putOn (s : Session) (host : Host) (a : Action) : Option (Option Row) :=
  (s.through a).bind fun h => if h = host then s.put a else none

/-- What a run puts on the cursor of a host, one after the other. -/
def history (s : Session) (host : Host) : List Action → List (Option Row)
  | [] => []
  | a :: as => (s.putOn host a).toList ++ (s.after a).history host as

/-- The row that a run puts on the cursor of a host last; none if it puts nothing there, or clears
it last. -/
def lastOn (s : Session) (host : Host) (as : List Action) : Option Row :=
  (s.history host as).getLast?.join

/-- The program holds the host, by itself or in an accessor or a schema. -/
def Holds (s : Session) (host : Host) : Prop :=
  host ∈ s.hosts ∨ (∃ x ∈ s.accessors, x.2.host = some host) ∨ ∃ x ∈ s.schemas, x.schema.host = host

/-- Every host that is held has a cursor, and all accessors of a schema share one. -/
structure Sound (s : Session) : Prop where
  known : ∀ host, s.Holds host → host.cell < s.space.cursors.cells.size
  bound : ∀ x ∈ s.schemas, x.BoundTo x.schema.host

end Session
end TrackStore
