import NhpSba.Common.Behaviour
import NhpSba.ThreatModel.Model.Formal
/-!
# Threat model — the adversarial model

`nhp_sba_adversarial_model.tla`: the formal model with an attacker that
replays messages and corrupts handshakes under way, and a policy engine
that may turn byzantine. The score is picked as it is evaluated.
-/

namespace NhpSba

namespace ThreatModel

namespace Adversarial

open Formal (Intent Sat)

/-- A message in transit. -/
structure Message (Agent : Type*) where
  type : MessageType
  agent : Agent
  nonce : ℤ
  intent : Intent
  isReplay : Bool

/-- `vars`. -/
structure State (Agent : Type*) where
  gatewayState : Agent → GatewayState
  highestNonce : Agent → ℤ
  satRegistry : Set (Sat Agent)
  messages : Set (Message Agent)
  clock : ℤ
  byzantineActive : Bool

variable {Agent : Type*}

/-- `Init`. -/
def init : State Agent where
  gatewayState := fun _ => .listen
  highestNonce := fun _ => 0
  satRegistry := ∅
  messages := ∅
  clock := 0
  byzantineActive := false

/-- `AgentRequestIntent(a, exp, intent)`. -/
def AgentRequestIntent (a : Agent) (exp : ℤ) (intent : Intent) (s s' : State Agent) : Prop :=
  s' = { s with satRegistry := s.satRegistry ∪ {{ agent := a, exp, intent, active := true }} }

/-- `AgentSendHandshake(a, nonce, intent)`. -/
def AgentSendHandshake (c : Constants) (a : Agent) (nonce : ℤ) (intent : Intent)
    (s s' : State Agent) : Prop :=
  (1 ≤ nonce ∧ nonce ≤ c.maxNonce) ∧
    s' = { s with
      messages := s.messages ∪ {{ type := .knk, agent := a, nonce, intent, isReplay := false }} }

/-- `MaliciousReplay(a)`, of a message. Its agent plays no part. -/
def MaliciousReplay (m : Message Agent) (s s' : State Agent) : Prop :=
  m ∈ s.messages ∧ s' = { s with messages := s.messages ∪ {{ m with isReplay := true }} }

/-- `ByzantineTrigger`. -/
def ByzantineTrigger (s s' : State Agent) : Prop :=
  s.byzantineActive = false ∧ s' = { s with byzantineActive := true }

/-- `TickClock`. -/
def TickClock (c : Constants) (s s' : State Agent) : Prop :=
  s.clock < c.maxTime ∧ s' = { s with clock := s.clock + 1 }

variable [DecidableEq Agent]

/-- `gateway_state' = [gateway_state EXCEPT ![a] = g]`. -/
def State.setGateway (s : State Agent) (a : Agent) (g : GatewayState) : State Agent :=
  { s with gatewayState := Function.update s.gatewayState a g }

/-- `StateCorruption(a)`. -/
def StateCorruption (a : Agent) (s s' : State Agent) : Prop :=
  (s.gatewayState a = .parseSig ∨ s.gatewayState a = .verifySat) ∧ s' = s.setGateway a .corrupted

/-- `GatewayReceiveKNK(m)`. -/
def GatewayReceiveKNK (m : Message Agent) (s s' : State Agent) : Prop :=
  m ∈ s.messages ∧ m.type = .knk ∧
    (s.gatewayState m.agent = .listen ∨ s.gatewayState m.agent = .corrupted) ∧
    s' = s.setGateway m.agent .parseSig

/-- `GatewayParseSig(a)`, on a message. -/
def GatewayParseSig (a : Agent) (m : Message Agent) (s s' : State Agent) : Prop :=
  s.gatewayState a = .parseSig ∧ (m ∈ s.messages ∧ m.agent = a) ∧
    s' = if s.highestNonce a < m.nonce then
      { s with highestNonce := Function.update s.highestNonce a m.nonce }.setGateway a .verifySat
    else s.setGateway a .listen

/-- `GatewayVerifySAT(a)`, on a message and a token for its intent. -/
def GatewayVerifySAT (a : Agent) (m : Message Agent) (sat : Sat Agent) (s s' : State Agent) :
    Prop :=
  s.gatewayState a = .verifySat ∧ (m ∈ s.messages ∧ m.agent = a) ∧
    (sat ∈ s.satRegistry ∧ sat.agent = a ∧ sat.intent = m.intent) ∧
    s' = if s.clock < sat.exp then s.setGateway a .evaluateMama else s.setGateway a .listen

/-- `GatewayEvaluateMAMA(a)`, on a score. -/
def GatewayEvaluateMAMA (c : Constants) (a : Agent) (score : ℤ) (s s' : State Agent) : Prop :=
  s.gatewayState a = .evaluateMama ∧ (0 ≤ score ∧ score ≤ 100) ∧
    s' = if s.byzantineActive = true ∨ c.minSafetyScore ≤ score then s.setGateway a .established
    else s.setGateway a .listen

/-- `GatewayRecoverCorruption(a)`. -/
def GatewayRecoverCorruption (a : Agent) (s s' : State Agent) : Prop :=
  s.gatewayState a = .corrupted ∧ s' = s.setGateway a .listen

/-- An action, with all that it picks. -/
inductive Action (Agent : Type*)
  | agentRequestIntent (a : Agent) (exp : ℤ) (intent : Intent)
  | agentSendHandshake (a : Agent) (nonce : ℤ) (intent : Intent)
  | maliciousReplay (a : Agent) (m : Message Agent)
  | stateCorruption (a : Agent)
  | byzantineTrigger
  | gatewayReceiveKnk (m : Message Agent)
  | gatewayParseSig (a : Agent) (m : Message Agent)
  | gatewayVerifySat (a : Agent) (m : Message Agent) (sat : Sat Agent)
  | gatewayEvaluateMama (a : Agent) (score : ℤ)
  | gatewayRecoverCorruption (a : Agent)
  | tickClock

/-- `Next`. -/
def Next (c : Constants) : Action Agent → State Agent → State Agent → Prop
  | .agentRequestIntent a exp intent, s, s' =>
    (s.clock + 1 ≤ exp ∧ exp ≤ c.maxTime) ∧ AgentRequestIntent a exp intent s s'
  | .agentSendHandshake a nonce intent, s, s' =>
    (1 ≤ nonce ∧ nonce ≤ c.maxNonce) ∧ AgentSendHandshake c a nonce intent s s'
  | .maliciousReplay _ m, s, s' => MaliciousReplay m s s'
  | .stateCorruption a, s, s' => StateCorruption a s s'
  | .byzantineTrigger, s, s' => ByzantineTrigger s s'
  | .gatewayReceiveKnk m, s, s' => GatewayReceiveKNK m s s'
  | .gatewayParseSig a m, s, s' => GatewayParseSig a m s s'
  | .gatewayVerifySat a m sat, s, s' => GatewayVerifySAT a m sat s s'
  | .gatewayEvaluateMama a score, s, s' => GatewayEvaluateMAMA c a score s s'
  | .gatewayRecoverCorruption a, s, s' => GatewayRecoverCorruption a s s'
  | .tickClock, s, s' => TickClock c s s'

/-- `Spec`, without its fairness. -/
def spec (c : Constants) : System (Action Agent) (State Agent) where
  Init s := s = init
  Next := Next c

/-! ## The properties listed -/

/-- `NoReplayAttack`. -/
def NoReplayAttack (s : State Agent) : Prop :=
  ∀ a, ∀ m ∈ s.messages, m.agent = a ∧ m.isReplay = true →
    ¬ (s.gatewayState a = .established ∧ s.highestNonce a = m.nonce)

/-- `CorruptionRecovery`. -/
def CorruptionRecovery (b : ℕ → State Agent) : Prop :=
  ∀ a, System.LeadsTo (fun s : State Agent => s.gatewayState a = .corrupted)
    (fun s => s.gatewayState a = .listen) b

/-- `DeadlockFree`. -/
def DeadlockFree (b : ℕ → State Agent) : Prop :=
  ∀ a, System.LeadsTo
    (fun s : State Agent => s.gatewayState a = .parseSig ∨ s.gatewayState a = .verifySat ∨
      s.gatewayState a = .evaluateMama ∨ s.gatewayState a = .corrupted)
    (fun s => s.gatewayState a = .established ∨ s.gatewayState a = .listen) b

end Adversarial

end ThreatModel

end NhpSba
