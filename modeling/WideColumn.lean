import WideColumn.Counter
import WideColumn.CqlType
import WideColumn.Decimal.Binary
import WideColumn.Decimal.Layout
import WideColumn.Decimal.Read
import WideColumn.Decimal.Shortest
import WideColumn.Edit.Dirty
import WideColumn.Edit.Document
import WideColumn.Edit.ListView
import WideColumn.Edit.MapView
import WideColumn.Edit.Script
import WideColumn.Edit.SetView
import WideColumn.Edit.View
import WideColumn.Entity
import WideColumn.Error
import WideColumn.Error.Document
import WideColumn.Json
import WideColumn.Json.Codec
import WideColumn.Json.Reader
import WideColumn.Json.Skip
import WideColumn.Json.Writer
import WideColumn.Level
import WideColumn.Level.ByTable
import WideColumn.Meta.Document
import WideColumn.Meta.Encoding
import WideColumn.Meta.Entity
import WideColumn.Meta.Key
import WideColumn.Meta.Property
import WideColumn.Options
import WideColumn.Persist.Batching
import WideColumn.Persist.Document
import WideColumn.Persist.KeyText
import WideColumn.Persist.Levels
import WideColumn.Persist.Manager
import WideColumn.Persist.Operation
import WideColumn.Persist.Outbox
import WideColumn.Persist.Proxy
import WideColumn.Persist.Register
import WideColumn.Persist.Registry
import WideColumn.Persist.Site
import WideColumn.Persist.Workspace
import WideColumn.Proofs.Counter.Drain
import WideColumn.Proofs.Counter.Statement
import WideColumn.Proofs.Operation.Calls
import WideColumn.Proofs.Operation.Frame
import WideColumn.Proofs.Operation.Keeps
import WideColumn.Proofs.Operation.Run
import WideColumn.Proofs.Reachable
import WideColumn.Proofs.Registry.Reachable
import WideColumn.Proofs.Registry.Sound
import WideColumn.Proofs.Update.Steps
import WideColumn.Proofs.Window.Collect
import WideColumn.Proofs.Window.Run
import WideColumn.Query.Clause
import WideColumn.Query.Document
import WideColumn.Query.Index
import WideColumn.Query.Slice
import WideColumn.Query.SliceQuery
import WideColumn.Query.Template
import WideColumn.Query.Typed
import WideColumn.Record
import WideColumn.Record.Document
import WideColumn.Row
import WideColumn.Session
import WideColumn.Session.Scripted
import WideColumn.Statement
import WideColumn.Statement.Document
import WideColumn.StatementCache
import WideColumn.Text.Blank
import WideColumn.Text.Folding
import WideColumn.Text.Hex
import WideColumn.Text.Split
import WideColumn.Text.Word
import WideColumn.Value
import WideColumn.Value.Convert
import WideColumn.Value.Document
import WideColumn.Value.Order
import WideColumn.Value.Tagged
import WideColumn.Proofs.Page
import WideColumn.Proofs.Update.Immediate
import WideColumn.Proofs.Counter.Conservation
import WideColumn.Proofs.Rejection.Binding
import WideColumn.Proofs.Rejection.Contract
import WideColumn.Proofs.Operation.Emits
import WideColumn.Proofs.Registry.Complete
import WideColumn.Proofs.Registry.Registration
import WideColumn.Proofs.Operation.Traversal
import WideColumn.Proofs.Window.Write
import WideColumn.Proofs.Window.Pending
import WideColumn.Proofs.Registry.Texts
import WideColumn.Proofs.Level.Precedence
import WideColumn.Proofs.Level.Sent
import WideColumn.Proofs.Level.Recorded
import WideColumn.Proofs.Level.Log
import WideColumn.Proofs.Level.Contract
import WideColumn.Proofs.Simulation.Contract
import WideColumn.Proofs.Meta.Rules
import WideColumn.Proofs.Meta.Row
import WideColumn.Proofs.Marker.Scan
import WideColumn.Proofs.Marker.Place
import WideColumn.Proofs.Marker.Templates
import WideColumn.Proofs.Marker.Binding
import WideColumn.Proofs.Marker.Columns
import WideColumn.Proofs.Edit.Inversion
import WideColumn.Proofs.Edit.Methods
import WideColumn.Proofs.Edit.Tracking
import WideColumn.Proofs.Event.Firing
import WideColumn.Proofs.Event.Deferred
import WideColumn.Proofs.Event.Calls
import WideColumn.Proofs.Event.Loading
import WideColumn.Proofs.Event.Contract
import WideColumn.Proofs.Slice.Comparison
import WideColumn.Proofs.Slice.Order
import WideColumn.Proofs.Slice.Range
import WideColumn.Proofs.Slice.Reading
import WideColumn.Proofs.Slice.Faithful
import WideColumn.Proofs.Counter.Table
import WideColumn.Proofs.Json.Lexeme
import WideColumn.Proofs.Json.Canonical
import WideColumn.Proofs.Json.RoundTrip
import WideColumn.Proofs.Encoding.RoundTrip
import WideColumn.Proofs.Encoding.Key
import WideColumn.Proofs.Counter.KeyText
import WideColumn.Proofs.Slice.Literal
import WideColumn.Proofs.Slice.Structure
import WideColumn.Proofs.Encoding.Depth
import WideColumn.Proofs.Encoding.Travel
import WideColumn.Proofs.Failure.Contract
import WideColumn.Proofs.Update.Address
import WideColumn.Proofs.Loaded.Contract
import WideColumn.Proofs.Insert.Immediate
import WideColumn.Proofs.Update.Cached
import WideColumn.Proofs.Removal.Rows
import WideColumn.Proofs.Removal.Deletes
import WideColumn.Proofs.Removal.Contract
import WideColumn.Proofs.Edit.Interleaving
import WideColumn.Proofs.Meta.Layout
import WideColumn.Proofs.Meta.Declared
import WideColumn.Proofs.Slice.WellFormed
import WideColumn.Proofs.Typed.Words
import WideColumn.Proofs.Typed.Contract
import WideColumn.Proofs.Missing.Changed
import WideColumn.Proofs.Missing.Reads
import WideColumn.Proofs.Missing.Contract
import WideColumn.Proofs.Cache.RecentList
import WideColumn.Proofs.Cache.Recency
import WideColumn.Proofs.Edit.Runs
import WideColumn.Proofs.Edit.Cursor
import WideColumn.Proofs.Edit.SubList
import WideColumn.Proofs.Loaded.Refresh
import WideColumn.Proofs.Level.Grammar
import WideColumn.Proofs.Edit.Walk
import WideColumn.Proofs.Edit.Snapshot
