import JudgeRelay.Number.Binary64
import JudgeRelay.Number.Shortest
import JudgeRelay.Number.Format
import JudgeRelay.Number.Parse
import JudgeRelay.Text.Escaped
import JudgeRelay.Json.Value
import JudgeRelay.Json.Read
import JudgeRelay.Json.Record
import JudgeRelay.Json.Write
import JudgeRelay.Dispatch.Request
import JudgeRelay.Dispatch.Queue
import JudgeRelay.Dispatch.Judge
import JudgeRelay.Dispatch.Registry
import JudgeRelay.Limits
import JudgeRelay.Deflate.Inflate
import JudgeRelay.Deflate.Stream
import JudgeRelay.Wire.Error
import JudgeRelay.Wire.Frame
import JudgeRelay.Wire.Reader
import JudgeRelay.Packet.Control
import JudgeRelay.Packet.Judge
import JudgeRelay.Net.Address
import JudgeRelay.Wire.Proxy
import JudgeRelay.Toml.Value
import JudgeRelay.Toml.Read
import JudgeRelay.Hash.Sha256
import JudgeRelay.Config.Credentials
import JudgeRelay.Config.Settings
import JudgeRelay.Net.Url
import JudgeRelay.Store.Address
import JudgeRelay.Config.Startup
import JudgeRelay.Store.Update
import JudgeRelay.Store.Memory
import JudgeRelay.Store.Redis
import JudgeRelay.Store.Backend
import JudgeRelay.Relay.Clock
import JudgeRelay.Relay.Connection
import JudgeRelay.Relay.Task
import JudgeRelay.Relay.World
import JudgeRelay.Relay.JudgeSession
import JudgeRelay.Relay.ControlSession
import JudgeRelay.Relay.Scheduler
import JudgeRelay.Relay.Bench
import JudgeRelay.Main
import JudgeRelay.Proofs.Registry.Steps
import JudgeRelay.Proofs.Registry.Frame
import JudgeRelay.Proofs.Registry.Consistency
import JudgeRelay.Proofs.Registry.Pending
import JudgeRelay.Proofs.Registry.Tiers
import JudgeRelay.Proofs.Registry.Conservation
import JudgeRelay.Proofs.Registry.Spared
import JudgeRelay.Proofs.Queue.Tickets
import JudgeRelay.Proofs.Registry.QueueOrder
import JudgeRelay.Proofs.Registry.Ledger
import JudgeRelay.Proofs.Relay.Steps
import JudgeRelay.Proofs.Relay.Stages
import JudgeRelay.Proofs.Relay.Agreement
import JudgeRelay.Proofs.Relay.Sessions
import JudgeRelay.Proofs.Relay.Running
import JudgeRelay.Proofs.Relay.Departure
import JudgeRelay.Proofs.Queue.Refinement
import JudgeRelay.Proofs.Bytes
import JudgeRelay.Proofs.Deflate.Stored
import JudgeRelay.Proofs.Wire.Reassembly
import JudgeRelay.Proofs.Registry.Outcome
import JudgeRelay.Proofs.Registry.Termination
import JudgeRelay.Proofs.Wire.ProxyRead
import JudgeRelay.Proofs.Wire.Incremental
import JudgeRelay.Proofs.Relay.Records
import JudgeRelay.Proofs.Wire.BodyLimit
import JudgeRelay.Proofs.Relay.Framing
import JudgeRelay.Proofs.Relay.Abort
import JudgeRelay.Proofs.Registry.Abort
import JudgeRelay.Proofs.Queue.Compaction
import JudgeRelay.Proofs.Text.Ascii
import JudgeRelay.Proofs.Store.Agreement
import JudgeRelay.Proofs.Net.Scan
import JudgeRelay.Proofs.Net.AddressText
import JudgeRelay.Proofs.Except
import JudgeRelay.Proofs.Wire.ProxyGrammar
import JudgeRelay.Proofs.Config.Authentication
import JudgeRelay.Proofs.Limits.TimeLimit
