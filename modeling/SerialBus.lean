import SerialBus.Backend.Basic
import SerialBus.Backend.Error
import SerialBus.Backend.Kind
import SerialBus.Cursor
import SerialBus.Descriptor.Basic
import SerialBus.Descriptor.Error
import SerialBus.Descriptor.Field
import SerialBus.Descriptor.Json
import SerialBus.Descriptor.Names
import SerialBus.Descriptor.Sample
import SerialBus.Descriptor.Strings
import SerialBus.Device.Basic
import SerialBus.Device.Holdings
import SerialBus.Device.StandardRequest
import SerialBus.Device.Strings
import SerialBus.Device.Summary
import SerialBus.Device.Transfer
import SerialBus.Device.View
import SerialBus.InterfaceWalk
import SerialBus.Json.Basic
import SerialBus.Json.Printer
import SerialBus.Json.Reader
import SerialBus.Loopback.Bus
import SerialBus.Loopback.Device
import SerialBus.Loopback.Minimal
import SerialBus.Loopback.Operations
import SerialBus.Native.Accessors
import SerialBus.Native.Client
import SerialBus.Native.Device
import SerialBus.Native.Library
import SerialBus.Native.Libusb
import SerialBus.Probe.Arguments
import SerialBus.Probe.FieldPattern
import SerialBus.Probe.Help
import SerialBus.Probe.LogFilter
import SerialBus.Probe.Report
import SerialBus.Probe.Run
import SerialBus.Search
import SerialBus.Session.Basic
import SerialBus.Session.Call
import SerialBus.Session.Reply
import SerialBus.Session.Testbed
import SerialBus.Settings.Basic
import SerialBus.Settings.File
import SerialBus.Settings.SetupError
import SerialBus.Table
import SerialBus.Text.Alphanumeric
import SerialBus.Text.Blank
import SerialBus.Text.Digits
import SerialBus.Text.HexBytes
import SerialBus.Text.Numeral
import SerialBus.Text.Utf16
import SerialBus.Toml.Document
import SerialBus.Toml.Number
import SerialBus.Toml.Printer
import SerialBus.Toml.Reader
import SerialBus.Toml.Scan
import SerialBus.Toml.Text
import SerialBus.Toml.Value
import SerialBus.Main
import SerialBus.Proofs.Action
import SerialBus.Proofs.Alternates
import SerialBus.Proofs.BusEvolution
import SerialBus.Proofs.ClaimedTransfers
import SerialBus.Proofs.Claims.Disposal
import SerialBus.Proofs.Claims.Levels
import SerialBus.Proofs.Claims.Nesting
import SerialBus.Proofs.Claims.Once
import SerialBus.Proofs.Claims.Reset
import SerialBus.Proofs.Claims.Settled
import SerialBus.Proofs.Claims.Tally
import SerialBus.Proofs.Custody
import SerialBus.Proofs.Descriptor.Grammar
import SerialBus.Proofs.Descriptor.Strings
import SerialBus.Proofs.Device.Control
import SerialBus.Proofs.Device.Effects
import SerialBus.Proofs.Device.Elementary
import SerialBus.Proofs.Device.Halts
import SerialBus.Proofs.Device.InStep
import SerialBus.Proofs.Device.Memory
import SerialBus.Proofs.Device.Parts
import SerialBus.Proofs.Device.Reads
import SerialBus.Proofs.Device.Requests
import SerialBus.Proofs.Device.Strings
import SerialBus.Proofs.Discovery
import SerialBus.Proofs.Evolution
import SerialBus.Proofs.Fleet
import SerialBus.Proofs.Gives
import SerialBus.Proofs.Loopback.Assembly
import SerialBus.Proofs.Loopback.Beside
import SerialBus.Proofs.Loopback.Changes
import SerialBus.Proofs.Loopback.Frames
import SerialBus.Proofs.Loopback.Grouping
import SerialBus.Proofs.Loopback.Halts
import SerialBus.Proofs.Loopback.Integrity
import SerialBus.Proofs.Loopback.Operations
import SerialBus.Proofs.Loopback.Owners
import SerialBus.Proofs.Loopback.Pipes
import SerialBus.Proofs.Loopback.Places
import SerialBus.Proofs.Loopback.Profile
import SerialBus.Proofs.Loopback.Reading
import SerialBus.Proofs.Loopback.Scans
import SerialBus.Proofs.Loopback.Served
import SerialBus.Proofs.Loopback.Tree
import SerialBus.Proofs.Loopback.Walk
import SerialBus.Proofs.Loopback.Working
import SerialBus.Proofs.Mirrored
import SerialBus.Proofs.Native.Calls
import SerialBus.Proofs.Native.Enumeration
import SerialBus.Proofs.Native.Library
import SerialBus.Proofs.Native.Registry
import SerialBus.Proofs.Operation
import SerialBus.Proofs.Profile.Disposal
import SerialBus.Proofs.Profile.Found
import SerialBus.Proofs.Profile.Represents
import SerialBus.Proofs.Profile.Runs
import SerialBus.Proofs.Profile.Selections
import SerialBus.Proofs.Profile.Transfers
import SerialBus.Proofs.Requests.Counted
import SerialBus.Proofs.Requests.Failed
import SerialBus.Proofs.Requests.Frame
import SerialBus.Proofs.Routing.Active
import SerialBus.Proofs.Routing.Attached
import SerialBus.Proofs.Routing.Coherence
import SerialBus.Proofs.Routing.Runs
import SerialBus.Proofs.Session.Accounting
import SerialBus.Proofs.Session.Accounts
import SerialBus.Proofs.Session.Memory
import SerialBus.Proofs.Session.Searches
import SerialBus.Proofs.Session.Sharing
import SerialBus.Proofs.Session.Steps
import SerialBus.Proofs.Session.Strings
import SerialBus.Proofs.Settings.Validation
import SerialBus.Proofs.Simulation
import SerialBus.Proofs.Table
import SerialBus.Proofs.Text.Blank
import SerialBus.Proofs.Text.HexBytes
import SerialBus.Proofs.Text.Numeral
import SerialBus.Proofs.Text.Utf16
import SerialBus.Proofs.Trees.Agreement
import SerialBus.Proofs.Trees.Basic
import SerialBus.Proofs.Trees.Native
import SerialBus.Proofs.Uncached.Exactness
import SerialBus.Proofs.Uncached.Operations
import SerialBus.Proofs.Uncached.Runs
import SerialBus.Proofs.Walk.Counters
import SerialBus.Proofs.Walk.Course
import SerialBus.Proofs.Walk.Order
import SerialBus.Proofs.Walk.Steps
import SerialBus.Proofs.Watched
