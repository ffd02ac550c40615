import DetectorControl.Client.Stub
import DetectorControl.Controller.Port
import DetectorControl.Hardware.Recorder
import DetectorControl.Heartbeat.Task
import DetectorControl.Main
import DetectorControl.Proofs.Supply.Levels
import DetectorControl.Proofs.Supply.Record
import DetectorControl.Proofs.Autorun.History
import DetectorControl.Proofs.Autorun.Shutdown
import DetectorControl.Proofs.Decimal.Digits
import DetectorControl.Proofs.Json.Numerals
import DetectorControl.Proofs.Json.Writing
import DetectorControl.Proofs.Json.Numbers
import DetectorControl.Proofs.Json.Strings
import DetectorControl.Proofs.Json.Reading
import DetectorControl.Proofs.Entries
import DetectorControl.Proofs.Json.Rereading
import DetectorControl.Proofs.Json.Records
import DetectorControl.Proofs.Wire.Frames
import DetectorControl.Proofs.Telemetry
import DetectorControl.Proofs.World.Plant
import DetectorControl.Proofs.Controller.Port
import DetectorControl.Proofs.Autorun.Commands
import DetectorControl.Proofs.Autorun.Safety
import DetectorControl.Proofs.Decimal.Rounding
import DetectorControl.Proofs.Decimal.Scaling
import DetectorControl.Proofs.Decimal.Shortest
import DetectorControl.Proofs.Json.Propriety
import DetectorControl.Proofs.Server.Log
import DetectorControl.Proofs.Wire.Sinks
import DetectorControl.Proofs.Wire.Streams
import DetectorControl.Proofs.Server.Order
import DetectorControl.Proofs.Autorun.Course
import DetectorControl.Proofs.Autorun.Evidence
import DetectorControl.Proofs.Autorun.Actions
import DetectorControl.Proofs.Autorun.Cadence
import DetectorControl.Proofs.Server.Overlong
import DetectorControl.Proofs.Server.Framing
import DetectorControl.Proofs.Wire.Chunks
import DetectorControl.Proofs.Command
import DetectorControl.Proofs.Controller.Routing
import DetectorControl.Proofs.Json.Sorting
import DetectorControl.Proofs.Server.Loopback
import DetectorControl.Proofs.Client.Remote
import DetectorControl.Proofs.Hardware.Sensors
import DetectorControl.Proofs.Autorun.Permission
import DetectorControl.Proofs.Controller.Relay
import DetectorControl.Proofs.Controller.Registrations
import DetectorControl.Proofs.Supply.Power
import DetectorControl.Proofs.Supply.Effect
import DetectorControl.Proofs.Autorun.Power
import DetectorControl.Proofs.Autorun.Settling
import DetectorControl.Proofs.Client.Provenance
import DetectorControl.Proofs.Client.Replies
import DetectorControl.Proofs.Autorun.Reports
import DetectorControl.Proofs.Decimal.Magnitude
import DetectorControl.Proofs.Heartbeat
import DetectorControl.Proofs.Server.Clients
import DetectorControl.Proofs.Peer.Traffic
import DetectorControl.Proofs.Peer.Turns
import DetectorControl.Proofs.Text.Blank
import DetectorControl.Proofs.Command.Normal
import DetectorControl.Proofs.Config.Channels
import DetectorControl.Proofs.Config.Sections
import DetectorControl.Proofs.Config.Validity
import DetectorControl.Proofs.Repository.Head
import DetectorControl.Proofs.Heartbeat.Lifecycle
import DetectorControl.Proofs.Repository.Hashes
import DetectorControl.Proofs.Options
