import PaneWatch.Accident
import PaneWatch.Activity
import PaneWatch.Check
import PaneWatch.Check.Fault
import PaneWatch.Command
import PaneWatch.Command.Process
import PaneWatch.Command.Tmux
import PaneWatch.Console
import PaneWatch.Disk
import PaneWatch.Failure
import PaneWatch.Http.Age
import PaneWatch.Http.Api
import PaneWatch.Http.Message
import PaneWatch.Http.Route
import PaneWatch.Http.Target
import PaneWatch.Json
import PaneWatch.Json.Encoding
import PaneWatch.Json.Printer
import PaneWatch.Json.Reader
import PaneWatch.Keyed
import PaneWatch.Log
import PaneWatch.Machine
import PaneWatch.Main
import PaneWatch.Monitor
import PaneWatch.Monitor.Detection
import PaneWatch.Monitor.Watch
import PaneWatch.Number.Amount
import PaneWatch.Number.Double
import PaneWatch.Number.Reading
import PaneWatch.Number.Shortest
import PaneWatch.Pattern
import PaneWatch.Pattern.Reader
import PaneWatch.Proofs.Check.Field
import PaneWatch.Proofs.Command.External
import PaneWatch.Proofs.Disk.Place
import PaneWatch.Proofs.Disk.Replace
import PaneWatch.Proofs.Disk.Tree
import PaneWatch.Proofs.Http.Age
import PaneWatch.Proofs.Http.CleanUp
import PaneWatch.Proofs.Http.Route
import PaneWatch.Proofs.Http.Watching
import PaneWatch.Proofs.Json.Integer
import PaneWatch.Proofs.Lookup
import PaneWatch.Proofs.Monitor.AllOrNothing
import PaneWatch.Proofs.Monitor.Announcement
import PaneWatch.Proofs.Monitor.Aside
import PaneWatch.Proofs.Monitor.Changes
import PaneWatch.Proofs.Monitor.Contest
import PaneWatch.Proofs.Monitor.Convergence
import PaneWatch.Proofs.Monitor.Deed
import PaneWatch.Proofs.Monitor.Entry
import PaneWatch.Proofs.Monitor.Flight
import PaneWatch.Proofs.Monitor.History
import PaneWatch.Proofs.Monitor.Notice
import PaneWatch.Proofs.Monitor.Office
import PaneWatch.Proofs.Monitor.Order
import PaneWatch.Proofs.Monitor.Ownership
import PaneWatch.Proofs.Monitor.Polling
import PaneWatch.Proofs.Monitor.Roster
import PaneWatch.Proofs.Monitor.Sight
import PaneWatch.Proofs.Monitor.Stage
import PaneWatch.Proofs.Monitor.Task
import PaneWatch.Proofs.Monitor.Traffic
import PaneWatch.Proofs.Monitor.Watches
import PaneWatch.Proofs.Monitor.Workers
import PaneWatch.Proofs.Monitor.Writes
import PaneWatch.Proofs.Number.Exact
import PaneWatch.Proofs.Number.Order
import PaneWatch.Proofs.Registry.Action
import PaneWatch.Proofs.Registry.Aging
import PaneWatch.Proofs.Registry.Content
import PaneWatch.Proofs.Registry.Corrupt
import PaneWatch.Proofs.Registry.Entries
import PaneWatch.Proofs.Registry.Filing
import PaneWatch.Proofs.Registry.Loading
import PaneWatch.Proofs.Registry.Operation
import PaneWatch.Proofs.Registry.Reconcile
import PaneWatch.Proofs.Registry.Recovery
import PaneWatch.Proofs.Registry.Refusal
import PaneWatch.Proofs.Registry.Reload
import PaneWatch.Proofs.Registry.Run
import PaneWatch.Proofs.Registry.Staleness
import PaneWatch.Proofs.Registry.Sweeping
import PaneWatch.Proofs.Registry.Updating
import PaneWatch.Proofs.Registry.Writable
import PaneWatch.Proofs.Session.Allotment
import PaneWatch.Proofs.Session.Check
import PaneWatch.Proofs.Session.Collision
import PaneWatch.Proofs.Session.Component
import PaneWatch.Proofs.Session.Cut
import PaneWatch.Proofs.Session.Grammar
import PaneWatch.Proofs.Session.Name
import PaneWatch.Proofs.Session.ReadBack
import PaneWatch.Proofs.Settings.Bounds
import PaneWatch.Proofs.Settings.Layout
import PaneWatch.Proofs.Settings.Loading
import PaneWatch.Proofs.Settings.Malformed
import PaneWatch.Proofs.Settings.Migration
import PaneWatch.Proofs.Settings.Saving
import PaneWatch.Proofs.Text.Lines
import PaneWatch.Proofs.Text.Utf8
import PaneWatch.Proofs.Time.Order
import PaneWatch.Proofs.Time.ReadBack
import PaneWatch.Proofs.Time.Span
import PaneWatch.Proofs.Value.Entry
import PaneWatch.Proofs.Value.Plain
import PaneWatch.Proofs.Yaml.Clear
import PaneWatch.Proofs.Yaml.Pen
import PaneWatch.Proofs.Yaml.ReadBack
import PaneWatch.Registry
import PaneWatch.Registry.Cleanup
import PaneWatch.Registry.Edit
import PaneWatch.Registry.File
import PaneWatch.Registry.Update
import PaneWatch.Rehearsal
import PaneWatch.Rehearsal.Parts
import PaneWatch.Rehearsal.Reach
import PaneWatch.Rehearsal.Replay
import PaneWatch.Rehearsal.Scene
import PaneWatch.Rehearsal.Serving
import PaneWatch.Rehearsal.Step
import PaneWatch.Rehearsal.Watching
import PaneWatch.Rehearsal.World
import PaneWatch.Service
import PaneWatch.Session.Name
import PaneWatch.Session.Record
import PaneWatch.Settings
import PaneWatch.Settings.Keeper
import PaneWatch.Settings.Legacy
import PaneWatch.Signal
import PaneWatch.Signal.Output
import PaneWatch.Text.Base64
import PaneWatch.Text.Blank
import PaneWatch.Text.Case
import PaneWatch.Text.Digit
import PaneWatch.Text.Printable
import PaneWatch.Text.Quoted
import PaneWatch.Text.Ranges
import PaneWatch.Text.Utf8
import PaneWatch.Text.Word
import PaneWatch.Time.Date
import PaneWatch.Time.Iso
import PaneWatch.Time.Lenient
import PaneWatch.Time.Span
import PaneWatch.Time.Stamp
import PaneWatch.Value
import PaneWatch.Value.Display
import PaneWatch.Value.Plain
import PaneWatch.Yaml.Cursor
import PaneWatch.Yaml.Document
import PaneWatch.Yaml.Kind
import PaneWatch.Yaml.Node
import PaneWatch.Yaml.Node.Grammar
import PaneWatch.Yaml.Printer
import PaneWatch.Yaml.Scalar
import PaneWatch.Yaml.Token
import PaneWatch.Yaml.Token.Block
import PaneWatch.Yaml.Token.Plain
import PaneWatch.Yaml.Token.Quoted
import PaneWatch.Yaml.Token.Stream
import PaneWatch.Yaml.Token.Tag
