import GroundLink.Activity.Basic
import GroundLink.Activity.Effect
import GroundLink.Bench.ClientSession
import GroundLink.Bench.Scheduler
import GroundLink.Bench.Session
import GroundLink.Bench.World
import GroundLink.Bytes
import GroundLink.Client.CommandLine
import GroundLink.Client.Config
import GroundLink.Client.ConfigFile
import GroundLink.Client.Exit
import GroundLink.Client.Mission
import GroundLink.Client.Operation
import GroundLink.Client.Procedure.Basic
import GroundLink.Client.Procedure.Catalogue
import GroundLink.Client.Procedure.Data
import GroundLink.Client.Procedure.Devices
import GroundLink.Client.Procedure.Services
import GroundLink.Client.Selection
import GroundLink.Client.ServiceTest
import GroundLink.Client.Startup
import GroundLink.Client.Verdict
import GroundLink.Files.Path
import GroundLink.Files.Tree
import GroundLink.Frame
import GroundLink.Link.Basic
import GroundLink.Link.Error
import GroundLink.Link.Loopback
import GroundLink.Link.Recorder
import GroundLink.Link.Serial
import GroundLink.Link.Udp
import GroundLink.Listener.Basic
import GroundLink.Listener.Mode
import GroundLink.Log
import GroundLink.Main
import GroundLink.Net.Address
import GroundLink.Number.Binary
import GroundLink.Number.Reading
import GroundLink.Number.Shortest
import GroundLink.Packet.Basic
import GroundLink.Packet.Checksum
import GroundLink.Packet.Error
import GroundLink.Packet.Header
import GroundLink.Packet.Secondary
import GroundLink.Printer
import GroundLink.Queue.Basic
import GroundLink.Queue.Script
import GroundLink.Report.Basic
import GroundLink.Report.Event
import GroundLink.Report.Housekeeping
import GroundLink.Report.Mode
import GroundLink.Report.Service
import GroundLink.Report.Verification
import GroundLink.Sender.Basic
import GroundLink.Sender.Burst
import GroundLink.Sender.Sequential
import GroundLink.Sender.Single
import GroundLink.Settings
import GroundLink.Telecommand
import GroundLink.Telemetry
import GroundLink.Text.Blank
import GroundLink.Text.Escaped
import GroundLink.Text.Numeral
import GroundLink.Text.Quoted
import GroundLink.Time.Calendar
import GroundLink.Time.Cds
import GroundLink.Time.Span
import GroundLink.Time.SteppingClock
import GroundLink.Toml.Document
import GroundLink.Toml.Number
import GroundLink.Toml.Text
import GroundLink.Toml.Value
import GroundLink.Proofs.Activity.Run
import GroundLink.Proofs.Activity.Secures
import GroundLink.Proofs.Sender.Steps
import GroundLink.Proofs.Sender.Waiting
import GroundLink.Proofs.Sender.Order
import GroundLink.Proofs.Sender.Replies
import GroundLink.Proofs.Listener.Docket
import GroundLink.Proofs.Listener.Sound
import GroundLink.Proofs.Listener.Work
import GroundLink.Proofs.Listener.RoundTrip
import GroundLink.Proofs.Listener.Accounts
import GroundLink.Proofs.Packet.Checksum
import GroundLink.Proofs.Packet.Header
import GroundLink.Proofs.Packet.Grammar
import GroundLink.Proofs.Packet.RoundTrip
import GroundLink.Proofs.Packet.Canonical
import GroundLink.Proofs.Packet.Detection
import GroundLink.Proofs.Packet.Corruption
import GroundLink.Proofs.Listener.Discipline
import GroundLink.Proofs.Listener.Reports
import GroundLink.Proofs.Listener.Batches
import GroundLink.Proofs.Bench.World
import GroundLink.Proofs.Link.Pending
import GroundLink.Proofs.Listener.Conservation
import GroundLink.Proofs.Activity.Halts
import GroundLink.Proofs.Sender.Rounds
import GroundLink.Proofs.Sender.Timing
import GroundLink.Proofs.Sender.Retries
import GroundLink.Proofs.Frame.Packing
import GroundLink.Proofs.Link.Loopback
import GroundLink.Proofs.Client.Loopback
import GroundLink.Proofs.Sender.Firsts
import GroundLink.Proofs.Sender.Dispatch
import GroundLink.Proofs.Sender.Plain
import GroundLink.Proofs.Sender.Endings
import GroundLink.Proofs.Sender.Brackets
import GroundLink.Proofs.Bench.Interleaving
import GroundLink.Proofs.Report.Layout
import GroundLink.Proofs.Report.Verification
import GroundLink.Proofs.Report.Grammar
import GroundLink.Proofs.Client.Verdict
import GroundLink.Proofs.Sender.Calls
import GroundLink.Proofs.Bench.Closing
import GroundLink.Proofs.Client.Exit
import GroundLink.Proofs.Activity.Uses
import GroundLink.Proofs.Link.Closed
import GroundLink.Proofs.Client.Race
import GroundLink.Proofs.Client.Closing
import GroundLink.Proofs.Frame.Prefix
import GroundLink.Proofs.Activity.Clock
import GroundLink.Proofs.Sender.Burst
import GroundLink.Proofs.Activity.Attains
import GroundLink.Proofs.Time.Span
import GroundLink.Proofs.Listener.Pace
import GroundLink.Proofs.Listener.Ceiling
import GroundLink.Proofs.Listener.Spin
import GroundLink.Proofs.Sender.Output
import GroundLink.Proofs.Client.Counting
import GroundLink.Proofs.Queue.Script
import GroundLink.Proofs.Listener.Window
import GroundLink.Proofs.Report.Definition
import GroundLink.Proofs.Link.Reception
import GroundLink.Proofs.Queue.Fields
import GroundLink.Proofs.Queue.Telecommand
import GroundLink.Proofs.Packet.Buffer
import GroundLink.Proofs.Packet.HeaderBits
import GroundLink.Proofs.Time.Cds
import GroundLink.Proofs.Client.Precedence
import GroundLink.Proofs.Packet.Residue
