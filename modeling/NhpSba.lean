import NhpSba.Common.Fallible
import NhpSba.Common.Machine
import NhpSba.Common.Guard
import NhpSba.Python.Base64
import NhpSba.Knock.Model.Payload
import NhpSba.Knock.Model.Jws
import NhpSba.Knock.Model.TrustStore
import NhpSba.Knock.Model.Validator
import NhpSba.Knock.Validator
import NhpSba.Knock.Expiration
import NhpSba.Knock.Replay
import NhpSba.Knock.Interference
import NhpSba.Knock.NonceWindow
import NhpSba.Knock.Accepted
import NhpSba.Policy.Model.DecisionEngine
import NhpSba.Knock.Containment
import NhpSba.Policy.Decision
import NhpSba.Policy.Authority
import NhpSba.Handshake.Model.Controller
import NhpSba.Handshake.Lifecycle
import NhpSba.Handshake.Server
import NhpSba.Handshake.Controller
import NhpSba.Handshake.Mirror
import NhpSba.Handshake.Reachable
import NhpSba.Handshake.Atomic
import NhpSba.Ingress.Model.Replay
import NhpSba.Ingress.Replay
import NhpSba.Ingress.Budget
import NhpSba.Common.Double
import NhpSba.Common.Crypto
import NhpSba.Ingress.Model.Pipeline
import NhpSba.Ingress.Pipeline
import NhpSba.Rust.BigEndian
import NhpSba.Rust.Panic
import NhpSba.Wire.Model.Packet
import NhpSba.Wire.Model.Http2Frame
import NhpSba.Wire.Packet
import NhpSba.Wire.Http2Frame
import NhpSba.Session.Keys
import NhpSba.Common.Lookup
import NhpSba.Session.Model.Manager
import NhpSba.Session.Manager
import NhpSba.Api.Model.RateLimit
import NhpSba.Api.RateLimit
import NhpSba.Api.Model.Nrs
import NhpSba.Api.Nrs
import NhpSba.Knock.TrustStore
import NhpSba.Knock.Creation
import NhpSba.Knock.Model.Parser
import NhpSba.Knock.Parser
import NhpSba.Knock.Model.Agent
import NhpSba.Knock.Agent
import NhpSba.Knock.ParseErrors
import NhpSba.Common.Json
import NhpSba.Python.Json
import NhpSba.Rust.Serde
import NhpSba.Rust.LittleEndian
import NhpSba.Session.Model.Nonce
import NhpSba.Session.Nonce
import NhpSba.Wire.Model.Knk
import NhpSba.Wire.Knk
import NhpSba.ThreatModel.Model.Gateway
import NhpSba.ThreatModel.Model.Deterministic
import NhpSba.ThreatModel.Model.Snapshot
import NhpSba.ThreatModel.Deterministic
import NhpSba.ThreatModel.Snapshot
import NhpSba.ThreatModel.Model.TrueFormal
import NhpSba.ThreatModel.MacroStep
import NhpSba.ThreatModel.Gateway
import NhpSba.ThreatModel.Model.Formal
import NhpSba.ThreatModel.IntentBinding
import NhpSba.ThreatModel.Model.Simulator
import NhpSba.ThreatModel.Simulator
import NhpSba.Common.Stages
import NhpSba.Policy.Specification
import NhpSba.Policy.Thresholds
import NhpSba.Policy.Comparison
import NhpSba.Policy.Model.EdnsMetrics
import NhpSba.Policy.EdnsMetrics
import NhpSba.Common.Worklist
import NhpSba.ThreatModel.Model.Checker
import NhpSba.ThreatModel.Checker
import NhpSba.Common.Behaviour
import NhpSba.ThreatModel.Model.Adversarial
import NhpSba.ThreatModel.Adversarial
import NhpSba.ThreatModel.MamaTermination
import NhpSba.ThreatModel.TokenBounds
import NhpSba.ThreatModel.Coverage
import NhpSba.Common.BreadthFirst
import NhpSba.ThreatModel.Exploration
import NhpSba.ThreatModel.LetIn
import NhpSba.Common.History
import NhpSba.ThreatModel.SnapshotHistory
import NhpSba.Common.OneByOne
import NhpSba.ThreatModel.SharedActions
import NhpSba.ThreatModel.SnapshotStates
import NhpSba.ThreatModel.TrueFormalStates
import NhpSba.ThreatModel.AtRest
import NhpSba.ThreatModel.Refinement
import NhpSba.Api.Model.Routes
import NhpSba.Api.Routes
import NhpSba.Api.Model.Service
import NhpSba.Api.Service
import NhpSba.Api.Answers
