import Mathlib.Data.Int.Range
import NhpSba.Common.System
import NhpSba.ThreatModel.Model.Gateway
/-!
# Threat model — the simulator of the adversarial model

`tlc_simulator.py`: the model checker walks the successors that
`get_successors` lists for a state, each under the name of its action. An
action's share of the list stands under the name in the comment above it.
The dictionaries keyed by agent are functions; they are asked for agents of
the list only (`Simulator.pending_of_reachable`).
-/

namespace NhpSba

namespace ThreatModel

namespace Simulator

/-- The one intent. -/
inductive Intent
  | beamform
  deriving DecidableEq

instance : ToString Intent where
  toString
    | .beamform => "beamform"

/-- An entry of `sat_registry`. -/
structure Sat where
  agent : String
  exp : ℤ
  intent : Intent
  active : Bool

/-- An entry of `messages`. -/
structure Message where
  type : MessageType
  agent : String
  nonce : ℤ
  intent : Intent
  isReplay : Bool

/-- `State`. -/
structure State where
  gatewayState : String → GatewayState
  highestNonce : String → ℤ
  satRegistry : List Sat
  messages : List Message
  clock : ℤ
  byzantineActive : Bool

/-- `State()`. -/
def State.new : State where
  gatewayState := fun _ => .listen
  highestNonce := fun _ => 0
  satRegistry := []
  messages := []
  clock := 0
  byzantineActive := false

/-- `s.gateway_state[a] = g`. -/
def State.setGateway (s : State) (a : String) (g : GatewayState) : State :=
  { s with gatewayState := Function.update s.gatewayState a g }

/-- `s.messages.append(m)`. -/
def State.send (s : State) (m : Message) : State := { s with messages := s.messages ++ [m] }

variable (c : Constants) (a : String) (s : State)

def tickClock : List (String × State) :=
  if s.clock < c.maxTime then [("TickClock", { s with clock := s.clock + 1 })] else []

def byzantineTrigger : List (String × State) :=
  if !s.byzantineActive then [("ByzantineTrigger", { s with byzantineActive := true })] else []

def agentRequestIntent : List (String × State) :=
  (Int.range (s.clock + 1) (c.maxTime + 1)).flatMap fun exp =>
    [Intent.beamform].map fun intent =>
      (s!"AgentRequestIntent({a}, {exp}, {intent})",
        { s with satRegistry := s.satRegistry ++ [{ agent := a, exp, intent, active := true }] })

def agentSendHandshake : List (String × State) :=
  (Int.range 1 (c.maxNonce + 1)).map fun nonce =>
    (s!"AgentSendHandshake({a}, {nonce})",
      s.send { type := .knk, agent := a, nonce, intent := .beamform, isReplay := false })

def maliciousReplay : List (String × State) :=
  s.messages.map fun m => (s!"MaliciousReplay({a})", s.send { m with isReplay := true })

def stateCorruption : List (String × State) :=
  if s.gatewayState a ∈ [GatewayState.parseSig, .verifySat] then
    [(s!"StateCorruption({a})", s.setGateway a .corrupted)]
  else []

def gatewayRecoverCorruption : List (String × State) :=
  if s.gatewayState a = .corrupted then
    [(s!"GatewayRecoverCorruption({a})", s.setGateway a .listen)]
  else []

/-- The agent of the loop plays no part here: any pending handshake may be
received. -/
def gatewayReceiveKnk : List (String × State) :=
  s.messages.flatMap fun m =>
    if m.type = .knk ∧ s.gatewayState m.agent ∈ [GatewayState.listen, .corrupted] then
      [(s!"GatewayReceiveKNK({m.agent})", s.setGateway m.agent .parseSig)]
    else []

def gatewayParseSig : List (String × State) :=
  if s.gatewayState a = .parseSig then
    s.messages.flatMap fun m =>
      if m.agent = a then
        [(s!"GatewayParseSig({a})",
          if s.highestNonce a < m.nonce then
            { s with highestNonce := Function.update s.highestNonce a m.nonce }.setGateway a
              .verifySat
          else s.setGateway a .listen)]
      else []
  else []

def gatewayVerifySat : List (String × State) :=
  if s.gatewayState a = .verifySat then
    s.messages.flatMap fun m =>
      if m.agent = a then
        s.satRegistry.flatMap fun sat =>
          if sat.agent = a ∧ sat.intent = m.intent then
            [(s!"GatewayVerifySAT({a})",
              if s.clock < sat.exp then s.setGateway a .evaluateMama else s.setGateway a .listen)]
          else []
      else []
  else []

def gatewayEvaluateMama : List (String × State) :=
  if s.gatewayState a = .evaluateMama then
    [(0 : ℤ), 90].map fun score =>
      (s!"GatewayEvaluateMAMA({a}, score={score})",
        if s.byzantineActive ∨ c.minSafetyScore ≤ score then s.setGateway a .established
        else s.setGateway a .listen)
  else []

/-- `get_successors`. -/
def getSuccessors (agents : List String) : List (String × State) :=
  tickClock c s ++ byzantineTrigger s ++ agents.flatMap fun a =>
    agentRequestIntent c a s ++ agentSendHandshake c a s ++ maliciousReplay a s ++
      stateCorruption a s ++ gatewayRecoverCorruption a s ++ gatewayReceiveKnk s ++
      gatewayParseSig a s ++ gatewayVerifySat a s ++ gatewayEvaluateMama c a s

/-- What the checker explores. -/
def simulator (agents : List String) : System String State where
  Init s := s = State.new
  Next name s s' := (name, s') ∈ getSuccessors c s agents

end Simulator

end ThreatModel

end NhpSba
