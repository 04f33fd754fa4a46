import TrackStore.Store.Basic

/-! # Frames and their tracks

A row that owns others is a track and they are its frames. A frame has one owner, and membership is
one level deep: a frame owns no frames, and a track is no frame. A deleted row loses its values and
leaves its track. A track with frames is not deleted.
-/

namespace TrackStore.Store

/-- The frames of a row, whether or not it is live. -/
def framesOf (s : Store) (track : Row) : List Row := s.frames.getD track []

def framesAt (s : Store) (track : Row) : Except Error (List Row) := do
  s.checkRow track
  return s.framesOf track

def owningTrack (s : Store) (frame : Row) : Except Error (Option Row) := do
  s.checkRow frame
  return s.owners[frame]?

/-- Puts a frame behind the other frames of a track. -/
def join (s : Store) (track frame : Row) : Store :=
  { s with
    owners := s.owners.insert frame track
    frames := s.frames.insert track (s.framesOf track ++ [frame]) }

/-- Takes a frame off its track; the order of the other frames stays. -/
def leave (s : Store) (frame : Row) : Store :=
  match s.owners[frame]? with
  | none => s
  | some track =>
    { s with
      owners := s.owners.erase frame
      frames := s.frames.modify track (·.filter (· ≠ frame)) }

/-- Whether a row has yet to join a track as its frame; an error where it cannot. -/
def mayJoin (s : Store) (track frame : Row) : Except Error Bool := do
  s.checkRow track
  s.checkRow frame
  if track = frame then .error (.selfFrame track)
  else
    match s.owners[frame]? with
    | some owner => if owner = track then .ok false else .error (.frameOwnership frame owner)
    | none =>
      if s.framesOf frame ≠ [] ∨ s.owners.contains track then .error (.nestedFrame track frame)
      else .ok true

/-- Makes a row a frame of a track, behind its other frames. A frame of that track stays where it
is. -/
def addFrame (track frame : Row) : StoreM Unit := do
  let joins ← query fun s => s.mayJoin track frame
  if joins then modify (·.join track frame)

/-- Takes a frame off its track, and answers which one that was. -/
def detachFrame (frame : Row) : StoreM (Option Row) := do
  let owner ← query fun s => s.owningTrack frame
  modify (·.leave frame)
  return owner

/-- Empties every slot of a row. -/
def purge (s : Store) (row : Row) : Store :=
  { s with columns := s.columns.map (·.erase row) }

/-- Removes a row without frames from every table. -/
def drop (s : Store) (row : Row) : Store :=
  let s := (s.purge row).leave row
  { s with
    frames := s.frames.erase row
    rows := (s.rows.release row).2 }

/-- Whether a row has yet to be deleted; an error where it cannot. Whether a second deletion is an
error is a setting of the store, and the deletion of a row that was never issued always is one. -/
def mayDelete (s : Store) (row : Row) : Except Error Bool :=
  if s.isLive row then
    if s.framesOf row = [] then .ok true
    else .error (.ownedFramesRemain row (s.framesOf row).length)
  else if s.rows.wasIssued row then
    match s.config.doubleDelete with
    | .ignore => .ok false
    | .error => .error (.doubleDelete row)
  else .error (.staleRow row)

/-- Deletes a row, for good. -/
def deleteRow (row : Row) : StoreM Unit := do
  let deletes ← query fun s => s.mayDelete row
  if deletes then modify (·.drop row)

end TrackStore.Store
