import GpuCounters.Binary.Arithmetic
import GpuCounters.Binary.Basic
import GpuCounters.Binary.Rounding
import GpuCounters.CommandLine.Arguments
import GpuCounters.CommandLine.Run
import GpuCounters.Compute.Api
import GpuCounters.Compute.Library
import GpuCounters.Compute.Simulated
import GpuCounters.Compute.Status
import GpuCounters.Counter.Cell
import GpuCounters.Counter.Json
import GpuCounters.Counter.Mode
import GpuCounters.Counter.Report
import GpuCounters.Counter.Value
import GpuCounters.Decimal.Fixed
import GpuCounters.Decimal.Integer
import GpuCounters.Decimal.Layout
import GpuCounters.Decimal.Reading
import GpuCounters.Decimal.Shortest
import GpuCounters.Driver.Basic
import GpuCounters.Driver.Library
import GpuCounters.Driver.Provider
import GpuCounters.Driver.Scripted
import GpuCounters.Driver.ScriptedLibrary
import GpuCounters.Dump.Error
import GpuCounters.Dump.Field
import GpuCounters.Dump.Layout
import GpuCounters.Dump.Location
import GpuCounters.Dump.Reader
import GpuCounters.Dump.Row
import GpuCounters.Dump.Writer
import GpuCounters.Engine
import GpuCounters.Exchange
import GpuCounters.Handle
import GpuCounters.Inspect
import GpuCounters.Json.Document
import GpuCounters.Json.Reader
import GpuCounters.Json.Writer
import GpuCounters.LibraryCall
import GpuCounters.Log
import GpuCounters.Main
import GpuCounters.Proofs.Binary.Intervals
import GpuCounters.Proofs.Binary.Nearest
import GpuCounters.Proofs.Binary.Widening
import GpuCounters.Proofs.CommandLine.Translate
import GpuCounters.Proofs.Counter.CellText
import GpuCounters.Proofs.Counter.NumericView
import GpuCounters.Proofs.Counter.ReportJson
import GpuCounters.Proofs.Counter.Text
import GpuCounters.Proofs.Counter.Whole
import GpuCounters.Proofs.Decimal.Numerals
import GpuCounters.Proofs.Decimal.Precision
import GpuCounters.Proofs.Decimal.RoundTrip
import GpuCounters.Proofs.Decimal.Rounded
import GpuCounters.Proofs.Decimal.Shortest
import GpuCounters.Proofs.Decimal.Trimmed
import GpuCounters.Proofs.Driver.Words
import GpuCounters.Proofs.Dump.Acceptance
import GpuCounters.Proofs.Dump.Appending
import GpuCounters.Proofs.Dump.Columns
import GpuCounters.Proofs.Dump.Fields
import GpuCounters.Proofs.Dump.Headers
import GpuCounters.Proofs.Dump.Labels
import GpuCounters.Proofs.Dump.Location
import GpuCounters.Proofs.Dump.NamedCells
import GpuCounters.Proofs.Dump.RoundTrip
import GpuCounters.Proofs.Dump.TornLines
import GpuCounters.Proofs.Engine.DumpPlace
import GpuCounters.Proofs.Engine.Modes
import GpuCounters.Proofs.Engine.OfflineSummary
import GpuCounters.Proofs.Engine.Rejection
import GpuCounters.Proofs.Engine.Shutdown
import GpuCounters.Proofs.Engine.Steps
import GpuCounters.Proofs.Engine.StreamDump
import GpuCounters.Proofs.FirstFault
import GpuCounters.Proofs.Host.Accounts
import GpuCounters.Proofs.Host.Conservation
import GpuCounters.Proofs.Host.DumpFaults
import GpuCounters.Proofs.Host.Handles
import GpuCounters.Proofs.Host.Operations
import GpuCounters.Proofs.Host.RefusedRows
import GpuCounters.Proofs.Host.SampledEvents
import GpuCounters.Proofs.Host.ScriptedEvents
import GpuCounters.Proofs.Host.WithoutDriver
import GpuCounters.Proofs.Json.Documents
import GpuCounters.Proofs.Json.Numbers
import GpuCounters.Proofs.Json.Texts
import GpuCounters.Proofs.Queue.Numerals
import GpuCounters.Proofs.Queue.Properties
import GpuCounters.Proofs.Queue.Protocol
import GpuCounters.Proofs.Session.Activities
import GpuCounters.Proofs.Session.Draining
import GpuCounters.Proofs.Session.LibraryReports
import GpuCounters.Proofs.Session.Lifecycle
import GpuCounters.Proofs.Session.Openings
import GpuCounters.Proofs.Session.Readability
import GpuCounters.Proofs.Session.Streams
import GpuCounters.Proofs.Session.Talk
import GpuCounters.Proofs.Settings.Overlay
import GpuCounters.Proofs.Settings.Printing
import GpuCounters.Proofs.Settings.Sources
import GpuCounters.Proofs.Settings.Verbatim
import GpuCounters.Proofs.Storage.Components
import GpuCounters.Proofs.Summary.Averages
import GpuCounters.Proofs.Summary.History
import GpuCounters.Proofs.Summary.Indexing
import GpuCounters.Proofs.Summary.Positions
import GpuCounters.Proofs.Summary.Tables
import GpuCounters.Proofs.Text.Words
import GpuCounters.Proofs.Toml.Documents
import GpuCounters.Proofs.Toml.Keys
import GpuCounters.Proofs.Toml.Texts
import GpuCounters.Queue.Error
import GpuCounters.Queue.Factory
import GpuCounters.Queue.Numerals
import GpuCounters.Queue.Properties
import GpuCounters.Session.Dump
import GpuCounters.Session.Error
import GpuCounters.Session.EventSampling
import GpuCounters.Session.Lifecycle
import GpuCounters.Session.StreamSampling
import GpuCounters.Session.System
import GpuCounters.Settings.Basic
import GpuCounters.Settings.Load
import GpuCounters.Settings.Print
import GpuCounters.Settings.Source
import GpuCounters.Storage.Disk
import GpuCounters.Storage.Output
import GpuCounters.Storage.Path
import GpuCounters.Summary.Aggregator
import GpuCounters.Summary.OrderedMap
import GpuCounters.Summary.Record
import GpuCounters.Summary.Table
import GpuCounters.Telemetry
import GpuCounters.Text.Blank
import GpuCounters.Text.Invisible
import GpuCounters.Text.Line
import GpuCounters.Text.Quoted
import GpuCounters.Text.Split
import GpuCounters.Text.Utf8
import GpuCounters.Toml.Moment
import GpuCounters.Toml.Reader
import GpuCounters.Toml.Scalar
import GpuCounters.Toml.Text
import GpuCounters.Toml.Value
import GpuCounters.Toml.Writer
