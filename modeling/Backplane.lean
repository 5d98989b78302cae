import Backplane.Access.Fault
import Backplane.Access.Request
import Backplane.Access.Trace
import Backplane.Bus.Basic
import Backplane.Bus.Error
import Backplane.Bus.Overflow
import Backplane.Bus.Transactions
import Backplane.Bus.Transfer
import Backplane.Device.Model
import Backplane.Device.Notice
import Backplane.Device.PageId
import Backplane.Device.Probe
import Backplane.Device.Registry
import Backplane.Device.Switch
import Backplane.Device.Tally
import Backplane.Json.Parser
import Backplane.Json.Printer
import Backplane.Json.Record
import Backplane.Json.Token
import Backplane.Json.Value
import Backplane.Listing.Dump
import Backplane.Listing.Regions
import Backplane.Main
import Backplane.Monitor.Command
import Backplane.Monitor.Launch
import Backplane.Monitor.Options
import Backplane.Monitor.Script
import Backplane.Monitor.Session
import Backplane.Overlay.AddressMap
import Backplane.Overlay.Id
import Backplane.Overlay.Layer
import Backplane.Page.Entry
import Backplane.Page.Geometry
import Backplane.Page.Perms
import Backplane.Page.Region
import Backplane.Page.Table
import Backplane.Profile.Demo
import Backplane.Profile.Populate
import Backplane.Profile.Printer
import Backplane.Profile.Reader
import Backplane.Profile.Spec
import Backplane.Proofs.Access.Ring
import Backplane.Proofs.Bus.Answering
import Backplane.Proofs.Bus.Atomicity
import Backplane.Proofs.Bus.Bounds
import Backplane.Proofs.Bus.Byte
import Backplane.Proofs.Bus.Bytewise
import Backplane.Proofs.Bus.Coherence
import Backplane.Proofs.Bus.Delivery
import Backplane.Proofs.Bus.DeviceIds
import Backplane.Proofs.Bus.Follows
import Backplane.Proofs.Bus.Isolation
import Backplane.Proofs.Bus.Log
import Backplane.Proofs.Bus.Modes
import Backplane.Proofs.Bus.Notes
import Backplane.Proofs.Bus.Operations
import Backplane.Proofs.Bus.Origins
import Backplane.Proofs.Bus.Overflow
import Backplane.Proofs.Bus.Passive
import Backplane.Proofs.Bus.Permission
import Backplane.Proofs.Bus.ReadOnly
import Backplane.Proofs.Bus.Readback
import Backplane.Proofs.Bus.RefusedOperations
import Backplane.Proofs.Bus.Served
import Backplane.Proofs.Bus.TornReads
import Backplane.Proofs.Bus.WideAccess
import Backplane.Proofs.Device.Firing
import Backplane.Proofs.Device.Fresh
import Backplane.Proofs.Device.Index
import Backplane.Proofs.Device.Lookup
import Backplane.Proofs.Device.Notices
import Backplane.Proofs.Device.Tables
import Backplane.Proofs.Json.Numbers
import Backplane.Proofs.Json.Reading
import Backplane.Proofs.Json.Records
import Backplane.Proofs.Listing.Dumps
import Backplane.Proofs.Listing.Extent
import Backplane.Proofs.Listing.Partition
import Backplane.Proofs.Listing.Views
import Backplane.Proofs.Monitor.Bindings
import Backplane.Proofs.Monitor.Blocks
import Backplane.Proofs.Monitor.Build
import Backplane.Proofs.Monitor.Building
import Backplane.Proofs.Monitor.Collisions
import Backplane.Proofs.Monitor.Composition
import Backplane.Proofs.Monitor.Devices
import Backplane.Proofs.Monitor.Echo
import Backplane.Proofs.Monitor.Failing
import Backplane.Proofs.Monitor.Hexadecimal
import Backplane.Proofs.Monitor.IdOwners
import Backplane.Proofs.Monitor.Inspection
import Backplane.Proofs.Monitor.Layers
import Backplane.Proofs.Monitor.RefusedCommands
import Backplane.Proofs.Monitor.Run
import Backplane.Proofs.Monitor.Spelling
import Backplane.Proofs.Monitor.WholeTargets
import Backplane.Proofs.Overlay.Accepted
import Backplane.Proofs.Overlay.Creation
import Backplane.Proofs.Overlay.Entries
import Backplane.Proofs.Overlay.Meaning
import Backplane.Proofs.Overlay.Refresh
import Backplane.Proofs.Overlay.Restore
import Backplane.Proofs.Overlay.Shown
import Backplane.Proofs.Overlay.Simulation
import Backplane.Proofs.Overlay.Toggles
import Backplane.Proofs.Overlay.Winner
import Backplane.Proofs.Profile.Overlap
import Backplane.Proofs.Profile.Population
import Backplane.Proofs.Profile.Regions
import Backplane.Proofs.Profile.RoundTrip
import Backplane.Proofs.Profile.Targets
import Backplane.Proofs.Profile.WellFormed
import Backplane.Proofs.Run.Asking
import Backplane.Proofs.Run.Halting
import Backplane.Proofs.Run.Interleaving
import Backplane.Proofs.Run.Requests
import Backplane.Proofs.Run.Turns
import Backplane.Proofs.Run.TwoParts
import Backplane.Proofs.Run.Waiting
import Backplane.Proofs.Run.Whereabouts
import Backplane.Proofs.Run.Workers
import Backplane.Proofs.Target.Capabilities
import Backplane.Proofs.Target.Contents
import Backplane.Proofs.Target.Names
import Backplane.Proofs.Target.Parts
import Backplane.Proofs.Target.Reach
import Backplane.Proofs.Target.Shape
import Backplane.Proofs.Target.Windows
import Backplane.Proofs.Text.Digits
import Backplane.Proofs.Text.FlagSet
import Backplane.Proofs.Text.Numeral
import Backplane.Proofs.Text.Words
import Backplane.Run.Control
import Backplane.Run.Machine
import Backplane.Run.Toy
import Backplane.Snapshot.Access
import Backplane.Snapshot.Command
import Backplane.Snapshot.Device
import Backplane.Snapshot.Error
import Backplane.Snapshot.Map
import Backplane.Target.Arena
import Backplane.Target.Caps
import Backplane.Target.Describe
import Backplane.Target.Fabric
import Backplane.Target.Id
import Backplane.Target.Memory
import Backplane.Target.Reject
import Backplane.Target.Route
import Backplane.Target.Window
import Backplane.Text.Blank
import Backplane.Text.Column
import Backplane.Text.FlagSet
import Backplane.Text.Numeral
import Backplane.Text.Quoted
import Backplane.Text.Unprinted
