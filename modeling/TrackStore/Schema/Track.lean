import TrackStore.Schema.Basic
import TrackStore.Store.Membership

/-! # Tracks under a schema

Creating, checking, copying and removing a track with its frames, as far as a schema declares their
fields. Working through listed fields at a row stops at the first error. An empty list asks nothing
of the row.
-/

namespace TrackStore

/-- A declared field without a value at a row of a track. -/
structure MissingField where
  container : Container
  field : FieldId
  name : String
  row : Row
deriving DecidableEq, Repr

def MissingField.ofRef (container : Container) (row : Row) (r : FieldRef) : MissingField :=
  ⟨container, r.field, r.name, row⟩

namespace Schema

/-- Copies the listed fields that have a value. -/
def copyAll (refs : List FieldRef) (src dst : Row) : StoreM Unit :=
  match refs with
  | [] => return
  | r :: refs => do
    r.copyValue src dst
    copyAll refs src dst

/-- Removes the values of the listed fields, and counts them. -/
def removeAll (refs : List FieldRef) (row : Row) : StoreM Nat :=
  match refs with
  | [] => return 0
  | r :: refs => do
    let present ← r.removeAt row
    let others ← removeAll refs row
    return others + if present then 1 else 0

/-- The listed fields without a value. -/
def missingAt (refs : List FieldRef) (s : Store) (row : Row) : Except Error (List FieldRef) :=
  match refs with
  | [] => return []
  | r :: refs => do
    let present ← r.hasValueAt s row
    let others ← missingAt refs s row
    return if present then others else r :: others

/-- Creates a track and selects it. -/
def createTrack (s : Schema) : WorkspaceM Row := do
  let track ← Workspace.onStore Store.createRow
  s.select track
  return track

/-- Creates a row that joins a track. A row that cannot join it is deleted again. -/
def newFrame (track : Row) : StoreM Row := do
  Store.query fun s => s.checkRow track
  let frame ← Store.createRow
  try Store.addFrame track frame
  catch e =>
    Store.deleteRow frame
    throw e
  return frame

/-- Creates a frame of a track and selects it. -/
def createFrame (s : Schema) (track : Row) : WorkspaceM Row := do
  let frame ← Workspace.onStore (newFrame track)
  s.select frame
  return frame

/-- The frame fields without a value at each of the frames. -/
def missingAtFrames (s : Schema) (store : Store) : List Row → Except Error (List MissingField)
  | [] => return []
  | frame :: frames => do
    let missing ← missingAt s.frame store frame
    let others ← s.missingAtFrames store frames
    return missing.map (MissingField.ofRef .frame frame) ++ others

/-- The declared fields without a value, those of the track first and then frame by frame. -/
def missingFields (s : Schema) (store : Store) (track : Row) :
    Except Error (List MissingField) := do
  let missing ← missingAt s.track store track
  let frames ← store.framesAt track
  let others ← s.missingAtFrames store frames
  return missing.map (MissingField.ofRef .track track) ++ others

def isComplete (s : Schema) (store : Store) (track : Row) : Except Error Bool :=
  return (← s.missingFields store track).isEmpty

def copyTrackFields (s : Schema) (src dst : Row) : StoreM Unit := copyAll s.track src dst

def copyFrameFields (s : Schema) (src dst : Row) : StoreM Unit := copyAll s.frame src dst

/-- Gives a track a copy of each of the frames. -/
def cloneFrames (s : Schema) (dst : Row) : List Row → StoreM Unit
  | [] => return
  | frame :: frames => do
    let copy ← Store.createRow
    s.copyFrameFields frame copy
    Store.addFrame dst copy
    s.cloneFrames dst frames

/-- A new track with the declared values of another and of its frames. -/
def cloneTrack (s : Schema) (src : Row) : StoreM Row := do
  let frames ← Store.query fun store => store.framesAt src
  let dst ← Store.createRow
  s.copyTrackFields src dst
  s.cloneFrames dst frames
  return dst

/-- Deletes a track and its frames, whatever values they have. -/
def removeTrack (track : Row) : StoreM Unit := do
  let frames ← Store.query fun store => store.framesAt track
  frames.forM Store.deleteRow
  Store.deleteRow track

/-- Removes the declared frame values from each of the frames, and counts them. -/
def stripFrames (s : Schema) : List Row → StoreM Nat
  | [] => return 0
  | frame :: frames => do
    let removed ← removeAll s.frame frame
    let others ← s.stripFrames frames
    return removed + others

/-- Removes the declared values from a track and its frames, which stay, and counts the values. -/
def stripTrack (s : Schema) (track : Row) : StoreM Nat := do
  let removed ← removeAll s.track track
  let frames ← Store.query fun store => store.framesAt track
  let others ← s.stripFrames frames
  return removed + others

end Schema
end TrackStore
