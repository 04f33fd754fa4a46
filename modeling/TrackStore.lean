import TrackStore.Config.Basic
import TrackStore.Config.Text
import TrackStore.Cursor
import TrackStore.Error
import TrackStore.Field.Accessor
import TrackStore.Field.Registry
import TrackStore.Field.Type
import TrackStore.Field.Value
import TrackStore.Field.Value.Lemmas
import TrackStore.Geo.Attach
import TrackStore.Geo.Source
import TrackStore.Geometry
import TrackStore.Number.Binary
import TrackStore.Number.Decimal
import TrackStore.Number.Shortest
import TrackStore.Proofs.Access
import TrackStore.Proofs.Accessors
import TrackStore.Proofs.Atomicity
import TrackStore.Proofs.Attach.Agreement
import TrackStore.Proofs.Attach.Completion
import TrackStore.Proofs.Attach.Independence
import TrackStore.Proofs.Attach.Obstacle
import TrackStore.Proofs.Attach.Outcome
import TrackStore.Proofs.Attach.Reference
import TrackStore.Proofs.Attach.Repetition
import TrackStore.Proofs.Attach.Walk
import TrackStore.Proofs.Attach.Writes
import TrackStore.Proofs.Clone.DeepCopy
import TrackStore.Proofs.Clone.Leftover
import TrackStore.Proofs.Clone.Progress
import TrackStore.Proofs.Contents
import TrackStore.Proofs.Counts.Recount
import TrackStore.Proofs.Counts.Rows
import TrackStore.Proofs.Counts.Slots
import TrackStore.Proofs.Cursors.Scoping
import TrackStore.Proofs.Cursors.Session
import TrackStore.Proofs.Cursors.Steps
import TrackStore.Proofs.Deletion
import TrackStore.Proofs.Effect
import TrackStore.Proofs.Fields.Building
import TrackStore.Proofs.Fields.Declaration
import TrackStore.Proofs.Fields.Identity
import TrackStore.Proofs.Fields.Redeclaration
import TrackStore.Proofs.Frames.Creation
import TrackStore.Proofs.Frames.History
import TrackStore.Proofs.Frames.Joining
import TrackStore.Proofs.History
import TrackStore.Proofs.ListedFields
import TrackStore.Proofs.Lookup.Listing
import TrackStore.Proofs.Lookup.Lowest
import TrackStore.Proofs.Lookup.Plain
import TrackStore.Proofs.Lookup.Scan
import TrackStore.Proofs.Membership
import TrackStore.Proofs.Overlap
import TrackStore.Proofs.Reads
import TrackStore.Proofs.Removal
import TrackStore.Proofs.Rows.Issuing
import TrackStore.Proofs.Rows.Members
import TrackStore.Proofs.Rows.Words
import TrackStore.Proofs.Run
import TrackStore.Proofs.Schemas
import TrackStore.Proofs.Settings.Alike
import TrackStore.Proofs.Settings.Blind
import TrackStore.Proofs.Settings.Operations
import TrackStore.Proofs.Settings.TwoRuns
import TrackStore.Proofs.Settings.Written
import TrackStore.Proofs.SlotFormat
import TrackStore.Proofs.StaleRows
import TrackStore.Proofs.Stripping
import TrackStore.Proofs.TypeSafety
import TrackStore.Proofs.Typed
import TrackStore.Proofs.WellFormed
import TrackStore.Row.Allocator
import TrackStore.Row.Bitmap
import TrackStore.Row.Bitmap.Lemmas
import TrackStore.Schema.Basic
import TrackStore.Schema.Formats
import TrackStore.Schema.Track
import TrackStore.Store.Basic
import TrackStore.Store.Handles
import TrackStore.Store.Lemmas
import TrackStore.Store.Membership
import TrackStore.Store.Slots
import TrackStore.Text.Quoted
import TrackStore.Text.Utf8
import TrackStore.Text.Utf8.Lemmas
import TrackStore.Toml.Document
import TrackStore.Toml.Document.Lemmas
import TrackStore.Toml.Grammar
import TrackStore.Toml.Grammar.Lemmas
import TrackStore.Toml.Number
import TrackStore.Toml.Number.Lemmas
import TrackStore.Toml.Scan
import TrackStore.Toml.Scan.Lemmas
import TrackStore.Toml.Text
import TrackStore.Toml.Value
import TrackStore.Wire.Codec
import TrackStore.Wire.Codec.Lemmas
