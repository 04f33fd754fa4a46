import TrackStore.Number.Binary

/-! # TOML values and tables

What a TOML document holds. Each table remembers how it was written, since that decides which later
lines may extend it. Entries are added to tables that may have been begun before: a key is never
given twice, a table has one header at most, and a dotted key extends only tables that dotted keys
began.
-/

namespace TrackStore.Toml

structure Date where
  year : Nat
  month : Nat
  day : Nat
deriving DecidableEq, Repr

/-- A time of day; the fraction of a second is kept as its digits. -/
structure Time where
  hour : Nat
  minute : Nat
  second : Nat
  fraction : List Nat
deriving DecidableEq, Repr

/-- A distance from UTC in minutes. -/
structure Offset where
  minutes : Int
deriving DecidableEq, Repr

inductive Moment where
  | date (d : Date)
  | time (t : Time)
  | localTime (d : Date) (t : Time)
  | offsetTime (d : Date) (t : Time) (o : Offset)
deriving DecidableEq, Repr

/-- How a table came to be. -/
inductive Origin where
  /-- By a header of its own, or as the document itself. -/
  | header
  /-- As an outer table of a header. -/
  | implied
  /-- As an outer table of a dotted key. -/
  | dotted
  /-- As a value between braces. -/
  | braces
deriving DecidableEq, Repr

inductive Value where
  | text (s : String)
  | integer (n : Int)
  | float (x : Binary64)
  | boolean (b : Bool)
  | moment (m : Moment)
  | array (items : List Value)
  | table (origin : Origin) (entries : List (String × Value))
  /-- The tables of headers in double brackets, in order. -/
  | tables (items : List (List (String × Value)))

/-- Entries in the order in which they were written. -/
abbrev Table := List (String × Value)

namespace Table

def find? (t : Table) (key : String) : Option Value := t.lookup key

/-- Gives an entry another value, at its old place. -/
def replace (t : Table) (key : String) (v : Value) : Table :=
  t.map fun (k, old) => if k == key then (k, v) else (k, old)

def remove (t : Table) (key : String) : Table := t.filter (·.1 != key)

/-- Works on the table at the end of a path below one of the given origin. Tables that are missing
on the way are begun. The last of the tables in double brackets stands for all of them. -/
def modifyAt (dotted : Bool) (f : Origin → Table → Option Table) :
    List String → Origin → Table → Option Table
  | [], origin, t => f origin t
  | key :: path, _, t =>
    match t.find? key with
    | none => do
      let origin := if dotted then .dotted else .implied
      let inner ← modifyAt dotted f path origin []
      return t ++ [(key, .table origin inner)]
    | some (.table .braces _) => none
    | some (.table origin inner) =>
      if dotted && origin == .header then none
      else do
        let inner ← modifyAt dotted f path origin inner
        return t.replace key (.table origin inner)
    | some (.tables items) => do
      let last ← modifyAt dotted f path .header (items.getLast?.getD [])
      return t.replace key (.tables (items.dropLast ++ [last]))
    | some _ => none

/-- Adds an entry to a table. A dotted key adds only to tables that dotted keys began. -/
def addEntry (path : List String) (key : String) (v : Value) (origin : Origin) (t : Table) :
    Option Table :=
  if (origin == .dotted) == path.isEmpty then none
  else if (t.find? key).isSome then none
  else some (t ++ [(key, v)])

/-- Adds the entry of a key with the tables around it. -/
def insert (t : Table) (path : List String) (key : String) (v : Value) : Option Table :=
  modifyAt true (addEntry path key v) path .header t

/-- A table that a header may still define: one that is only implied so far, or a new one. -/
def undefinedYet (t : Table) (key : String) : Option Table :=
  match t.find? key with
  | none => some []
  | some (.table .implied inner) => some inner
  | some _ => none

/-- Adds a table with a header; `fill` adds its entries to what is there of it. -/
def addTable (key : String) (fill : Table → Option Table) (t : Table) : Option Table := do
  let inner ← fill (← t.undefinedYet key)
  return t.remove key ++ [(key, .table .header inner)]

/-- Adds a table with a header in double brackets. -/
def addItem (key : String) (fill : Table → Option Table) (t : Table) : Option Table := do
  match t.find? key with
  | none => return t ++ [(key, .tables [← fill []])]
  | some (.tables items) => return t.replace key (.tables (items ++ [← fill []]))
  | some _ => none

end Table
end TrackStore.Toml
