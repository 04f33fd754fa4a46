import TrackStore.Config.Basic
import TrackStore.Field.Type
import TrackStore.Number.Shortest
import TrackStore.Row.Allocator
import TrackStore.Text.Quoted
import TrackStore.Wire.Codec

/-! # Errors

Everything that can go wrong with a store, by its cause, with the data that the cause has. The
texts and the broad categories are functions of the cause.
-/

namespace TrackStore

/-- Why a frame got no coordinate. -/
inductive ResolutionReason where
  /-- None of the fields has a value, or one is not registered. -/
  | noSourceField (tried : List String)
  /-- The field holds values that are not numbers. -/
  | sourceTypeConflict (name found : String)
  | outOfRange (latitude longitude : Binary64)
deriving DecidableEq, Repr

def ResolutionReason.message : ResolutionReason → String
  | noSourceField tried => s!"no value in any of the fields {Text.quoteList tried}"
  | sourceTypeConflict name found =>
    s!"source field '{name}' holds {found} values, expected f64"
  | outOfRange latitude longitude =>
    s!"coordinate out of range (lat {latitude.text}, lon {longitude.text})"

/-- A frame without coordinate: its track, its place there, the format of the track. -/
structure ResolutionFailure where
  track : Row
  frame : Row
  frameIndex : Nat
  format : String
  reason : ResolutionReason
deriving DecidableEq, Repr

def ResolutionFailure.message (f : ResolutionFailure) : String :=
  s!"frame {f.frameIndex} ({f.frame.text}) of track {f.track.text} [{f.format}]: " ++
    f.reason.message

inductive Error where
  | typeConflict (name existing requested : String)
  | staleRow (row : Row)
  | unknownField (field : FieldId)
  | unboundCursor
  | staleCursor (row : Row)
  | typeMismatch (name expected found : String)
  | frameOwnership (frame owner : Row)
  | selfFrame (row : Row)
  | nestedFrame (track frame : Row)
  | ownedFramesRemain (track : Row) (count : Nat)
  | doubleDelete (row : Row)
  | tooManyFields (name : String)
  | codec (cause : DecodeError)
  | config (cause : ConfigError)
  /-- A file cannot be read as text. -/
  | unreadable
  | unresolved (count : Nat) (first : ResolutionFailure)
deriving DecidableEq, Repr

/-- What a caller can do about an error. -/
inductive ErrorCategory where
  | typeConflict
  | staleHandle
  | unboundCursor
  | membership
  | resolution
  | environment
deriving DecidableEq, Repr

def ErrorCategory.name : ErrorCategory → String
  | typeConflict => "TypeConflict"
  | staleHandle => "StaleHandle"
  | unboundCursor => "UnboundCursor"
  | membership => "Membership"
  | resolution => "Resolution"
  | environment => "Environment"

namespace Error

def category : Error → ErrorCategory
  | typeConflict .. => .typeConflict
  | staleRow _ | unknownField _ | typeMismatch .. | doubleDelete _ => .staleHandle
  | unboundCursor | staleCursor _ => .unboundCursor
  | frameOwnership .. | selfFrame _ | nestedFrame .. | ownedFramesRemain .. => .membership
  | unresolved .. => .resolution
  | tooManyFields _ | codec _ | config _ | unreadable => .environment

/-- The text of an error. A file or a document that cannot be read has none of its own. -/
def message? : Error → Option String
  | typeConflict name existing requested =>
    s!"Field '{name}' is registered as {existing}; cannot re-register it as {requested}"
  | staleRow row => s!"Stale row handle: {row.text} was deleted or never issued"
  | unknownField field => s!"Unknown field handle: {field.text}"
  | unboundCursor => "Cursor is unbound: no row has been selected on this host"
  | staleCursor row => s!"Cursor points at deleted row {row.text}"
  | typeMismatch name expected found =>
    s!"Field '{name}' holds {expected} values, accessed as {found}"
  | frameOwnership frame owner => s!"Frame {frame.text} already belongs to track {owner.text}"
  | selfFrame row => s!"Row {row.text} cannot be a frame of itself"
  | nestedFrame track frame =>
    s!"Row {frame.text} cannot become a frame of {track.text}: " ++
      "frames cannot own frames and tracks cannot be frames"
  | ownedFramesRemain track count =>
    s!"Track {track.text} still owns {count} frame(s); delete or detach them first"
  | doubleDelete row => s!"Row {row.text} was already deleted"
  | tooManyFields name => s!"Cannot register field '{name}': the field id space is exhausted"
  | codec cause => s!"Value codec error: {cause.message}"
  | config (.capacityTooGreat capacity maximum) =>
    "Configuration error: initial_row_capacity " ++
      s!"{capacity} exceeds the maximum of {maximum}"
  | config _ | unreadable => none
  | unresolved count first =>
    s!"{count} frame(s) have no resolvable source field; first: {first.message}"

end Error
end TrackStore
