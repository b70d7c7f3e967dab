import NhpSba.Common.Behaviour
import NhpSba.ThreatModel.Model.Gateway
/-!
# Threat model — the formal model, with intents

`nhp_sba_formal_model.tla`: an agent asks for a token for an intent and
sends handshakes for intents, and the gateway takes an agent through its
states. Each of its steps picks a message of the agent anew.
-/

namespace NhpSba

namespace ThreatModel

namespace Formal

/-- What an agent may intend. -/
inductive Intent
  | beamform
  | monitor
  deriving DecidableEq

/-- A token of the registry, for an intent. -/
structure Sat (Agent : Type*) where
  agent : Agent
  exp : ℤ
  intent : Intent
  active : Bool

/-- A message in transit. -/
structure Message (Agent : Type*) where
  type : MessageType
  agent : Agent
  nonce : ℤ
  intent : Intent

/-- `vars`. -/
structure State (Agent : Type*) where
  gatewayState : Agent → GatewayState
  highestNonce : Agent → ℤ
  satRegistry : Set (Sat Agent)
  messages : Set (Message Agent)
  clock : ℤ
  mamaScores : Agent → ℤ

variable {Agent : Type*}

/-- `Init`, for given scores. -/
def init (mamaScores : Agent → ℤ) : State Agent where
  gatewayState := fun _ => .listen
  highestNonce := fun _ => 0
  satRegistry := ∅
  messages := ∅
  clock := 0
  mamaScores

/-- `AgentRequestIntent(a, exp, intent)`. -/
def AgentRequestIntent (a : Agent) (exp : ℤ) (intent : Intent) (s s' : State Agent) : Prop :=
  s' = { s with satRegistry := s.satRegistry ∪ {{ agent := a, exp, intent, active := true }} }

/-- `AgentSendHandshake(a, nonce, intent)`. -/
def AgentSendHandshake (c : Constants) (a : Agent) (nonce : ℤ) (intent : Intent)
    (s s' : State Agent) : Prop :=
  (1 ≤ nonce ∧ nonce ≤ c.maxNonce) ∧
    s' = { s with messages := s.messages ∪ {{ type := .knk, agent := a, nonce, intent }} }

/-- `TickClock`. -/
def TickClock (c : Constants) (s s' : State Agent) : Prop :=
  s.clock < c.maxTime ∧ s' = { s with clock := s.clock + 1 }

variable [DecidableEq Agent]

/-- `GatewayReceiveKNK(m)`. -/
def GatewayReceiveKNK (m : Message Agent) (s s' : State Agent) : Prop :=
  m ∈ s.messages ∧ m.type = .knk ∧ s.gatewayState m.agent = .listen ∧
    s' = { s with gatewayState := Function.update s.gatewayState m.agent .parseSig }

/-- `GatewayParseSig(a)`, on a message. -/
def GatewayParseSig (a : Agent) (m : Message Agent) (s s' : State Agent) : Prop :=
  s.gatewayState a = .parseSig ∧ (m ∈ s.messages ∧ m.type = .knk ∧ m.agent = a) ∧
    s' = if s.highestNonce a < m.nonce then
      { s with
        highestNonce := Function.update s.highestNonce a m.nonce
        gatewayState := Function.update s.gatewayState a .verifySat }
    else { s with gatewayState := Function.update s.gatewayState a .listen }

/-- `GatewayVerifySAT(a)`, on a message and a token for its intent. The
message need not be the one that `GatewayParseSig` took. -/
def GatewayVerifySAT (a : Agent) (m : Message Agent) (sat : Sat Agent) (s s' : State Agent) :
    Prop :=
  s.gatewayState a = .verifySat ∧ (m ∈ s.messages ∧ m.type = .knk ∧ m.agent = a) ∧
    (sat ∈ s.satRegistry ∧ sat.agent = a ∧ sat.intent = m.intent) ∧
    s' = if s.clock < sat.exp then
      { s with gatewayState := Function.update s.gatewayState a .evaluateMama }
    else { s with gatewayState := Function.update s.gatewayState a .listen }

/-- `GatewayEvaluateMAMA(a)`. -/
def GatewayEvaluateMAMA (c : Constants) (a : Agent) (s s' : State Agent) : Prop :=
  s.gatewayState a = .evaluateMama ∧
    s' = if c.minSafetyScore ≤ s.mamaScores a then
      { s with gatewayState := Function.update s.gatewayState a .established }
    else { s with gatewayState := Function.update s.gatewayState a .listen }

/-- An action, with all that it picks. -/
inductive Action (Agent : Type*)
  | agentRequestIntent (a : Agent) (exp : ℤ) (intent : Intent)
  | agentSendHandshake (a : Agent) (nonce : ℤ) (intent : Intent)
  | gatewayReceiveKnk (m : Message Agent)
  | gatewayParseSig (a : Agent) (m : Message Agent)
  | gatewayVerifySat (a : Agent) (m : Message Agent) (sat : Sat Agent)
  | gatewayEvaluateMama (a : Agent)
  | tickClock

/-- `Next`. -/
def Next (c : Constants) : Action Agent → State Agent → State Agent → Prop
  | .agentRequestIntent a exp intent, s, s' =>
    (s.clock + 1 ≤ exp ∧ exp ≤ c.maxTime) ∧ AgentRequestIntent a exp intent s s'
  | .agentSendHandshake a nonce intent, s, s' =>
    (1 ≤ nonce ∧ nonce ≤ c.maxNonce) ∧ AgentSendHandshake c a nonce intent s s'
  | .gatewayReceiveKnk m, s, s' => GatewayReceiveKNK m s s'
  | .gatewayParseSig a m, s, s' => GatewayParseSig a m s s'
  | .gatewayVerifySat a m sat, s, s' => GatewayVerifySAT a m sat s s'
  | .gatewayEvaluateMama a, s, s' => GatewayEvaluateMAMA c a s s'
  | .tickClock, s, s' => TickClock c s s'

/-- `Spec`, without its fairness. -/
def spec (c : Constants) : System (Action Agent) (State Agent) where
  Init s := ∃ mamaScores : Agent → ℤ, (∀ a, 0 ≤ mamaScores a ∧ mamaScores a ≤ 100) ∧
    s = init mamaScores
  Next := Next c

/-! ## The properties listed -/

/-- `NoReplayAttack`. -/
def NoReplayAttack (s : State Agent) : Prop :=
  ∀ a, ∀ m₁ ∈ s.messages, ∀ m₂ ∈ s.messages,
    m₁.agent = a ∧ m₂.agent = a ∧ m₁.nonce = m₂.nonce ∧ m₁ ≠ m₂ →
      ¬ s.gatewayState a = .established

/-- `SATTemporalBound`. -/
def SATTemporalBound (s : State Agent) : Prop :=
  ∀ a, s.gatewayState a = .evaluateMama ∨ s.gatewayState a = .established →
    ∃ sat ∈ s.satRegistry, sat.agent = a ∧ s.clock < sat.exp

/-- `MAMATerminationLiveness`. -/
def MAMATerminationLiveness (b : ℕ → State Agent) : Prop :=
  ∀ a, System.LeadsTo (fun s : State Agent => s.gatewayState a = .evaluateMama)
    (fun s => s.gatewayState a = .established ∨ s.gatewayState a = .listen) b

end Formal

end ThreatModel

end NhpSba
