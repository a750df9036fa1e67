import OcppGo.ClientDispatcher.Effects
import OcppGo.Interleaving.Custody
import OcppGo.Interleaving.Protocol
import OcppGo.ClientDispatcher.Ownership
import OcppGo.ClientDispatcher.Ledger
import OcppGo.ClientDispatcher.Reading
import OcppGo.ClientDispatcher.SingleWinner
import OcppGo.ClientDispatcher.Acceptance
import OcppGo.ClientDispatcher.Phases
import OcppGo.ClientDispatcher.Lifecycle
import OcppGo.ClientDispatcher.Conformance
import OcppGo.ClientDispatcher.InFlight
import OcppGo.ClientDispatcher.Timeout
import OcppGo.ClientDispatcher.WakeUp
import OcppGo.Ocppj.QueueMap
import OcppGo.Ocppj.ServerState
import OcppGo.Ocppj.PendingStore
import OcppGo.ServerDispatcher.Model
import OcppGo.ServerDispatcher.Code
import OcppGo.ClientDispatcher.Pausing
import OcppGo.ClientLifecycle.Code
import OcppGo.ClientLifecycle.Stages
import OcppGo.ClientLifecycle.Conformance
import OcppGo.ClientLifecycle.EarlyDrop
import OcppGo.ClientLifecycle.Reconnection
import OcppGo.ClientLifecycle.Sockets
import OcppGo.ClientLifecycle.Cleanup
import OcppGo.ClientLifecycle.Lineage
import OcppGo.ClientLifecycle.PauseFlag
import OcppGo.ClientLifecycle.Stopping
import OcppGo.ServerDispatcher.Usage
import OcppGo.ServerDispatcher.Completion
import OcppGo.Sync.Ownership
import OcppGo.Sync.Channel
import OcppGo.Ws.Socket
import OcppGo.Ws.Teardown
import OcppGo.Ws.Server
import OcppGo.Ws.Registration
import OcppGo.Ws.Seats
import OcppGo.Ws.Gate
import OcppGo.Ws.Composition
import OcppGo.Ws.Events
import OcppGo.Ws.Shutdown
import OcppGo.Ws.Backoff
import OcppGo.Sequential.Emission
import OcppGo.Ocppj.Message
import OcppGo.Ocppj.Endpoint
import OcppGo.Ocppj.Reply
import OcppGo.Ocpp16.Requests
import OcppGo.Ocppj.Agreement
import OcppGo.Sequential.Fallible
import OcppGo.Search.Marking
import OcppGo.Codegen.Naming
import OcppGo.Codegen.Schema
import OcppGo.Codegen.Manifest
import OcppGo.Codegen.Walk
import OcppGo.Codegen.Consistency
import OcppGo.Codegen.Cycles
import OcppGo.Codegen.Placement
import OcppGo.Codegen.Mapping
import OcppGo.Codegen.Emit
import OcppGo.Codegen.References
import OcppGo.Codegen.Overrides
import OcppGo.Codegen.Strictness
import OcppGo.Ocpp16.ConfigManager
import OcppGo.Ocpp16.ConfigChange
import OcppGo.Ocpp16.ConfigLife
import OcppGo.Ocppj.Parsing
import OcppGo.Ocppj.Inbound
import OcppGo.Ocppj.RoundTrip
import OcppGo.Numeric.Binary64
import OcppGo.Ocppj.Integers
import OcppGo.Schemacheck.Walk
import OcppGo.Schemacheck.Optionality
import OcppGo.Schemacheck.Coverage
import OcppGo.Symboldelta.Order
