import NhpSba.Common.System
import NhpSba.ThreatModel.Model.Gateway
/-!
# Threat model — the True model

`ZTCPP_True_Formal_Model.tla`: the gateway takes a handshake through its
states one at a time, and anything may happen between two of them. An
action that picks a message or a token picks it anew.
-/

namespace NhpSba

namespace ThreatModel

namespace TrueFormal

/-- A token of the registry, which does not say when it was issued. -/
structure Sat (Agent : Type*) where
  agent : Agent
  exp : ℤ
  active : Bool

/-- `vars`. -/
abbrev State (Agent : Type*) := Vars Agent (Sat Agent)

variable {Agent : Type*}

/-- `RequestSAT(a, exp)`. -/
def RequestSAT (a : Agent) (exp : ℤ) (s s' : State Agent) : Prop :=
  s' = { s with satRegistry := s.satRegistry ∪ {{ agent := a, exp, active := true }} }

variable [DecidableEq Agent]

/-- `ReceiveKNK(m)`. -/
def ReceiveKNK (m : Message Agent) (s s' : State Agent) : Prop :=
  s.networkPartition = false ∧ m ∈ s.network ∧
    (s.state m.agent = .listen ∨ s.state m.agent = .corrupted) ∧
    s' = { s with state := Function.update s.state m.agent .parseSig }

/-- `ParseSig(a)`, on a message. -/
def ParseSig (a : Agent) (m : Message Agent) (s s' : State Agent) : Prop :=
  s.networkPartition = false ∧ s.state a = .parseSig ∧ (m ∈ s.network ∧ m.agent = a) ∧
    s' = if s.highestNonce a < m.nonce ∨ s.byzantineServer = true then
      { s with
        highestNonce := Function.update s.highestNonce a m.nonce
        state := Function.update s.state a .verifySat }
    else { s with state := Function.update s.state a .listen }

/-- `VerifySAT(a)`, on a message and a token. -/
def VerifySAT (a : Agent) (m : Message Agent) (sat : Sat Agent) (s s' : State Agent) : Prop :=
  s.networkPartition = false ∧ s.state a = .verifySat ∧ (m ∈ s.network ∧ m.agent = a) ∧
    (sat ∈ s.satRegistry ∧ sat.agent = a) ∧
    s' = if s.clock < sat.exp ∨ s.byzantineServer = true then
      { s with state := Function.update s.state a .evaluateMama }
    else { s with state := Function.update s.state a .listen }

/-- `EvaluateMAMA(a)`, on a score. -/
def EvaluateMAMA (c : Constants) (a : Agent) (score : ℤ) (s s' : State Agent) : Prop :=
  s.networkPartition = false ∧ s.state a = .evaluateMama ∧ (0 ≤ score ∧ score ≤ 100) ∧
    s' = if c.minSafetyScore ≤ score ∨ s.byzantineAc = true ∨ s.byzantineServer = true then
      { s with state := Function.update s.state a .established }
    else { s with state := Function.update s.state a .listen }

/-- An action, with all that it picks. -/
inductive Action (Agent : Type*)
  | requestSat (a : Agent) (exp : ℤ)
  | common (action : CommonAction Agent)
  | receiveKnk (m : Message Agent)
  | parseSig (a : Agent) (m : Message Agent)
  | verifySat (a : Agent) (m : Message Agent) (sat : Sat Agent)
  | evaluateMama (a : Agent) (score : ℤ)

/-- `Next`. -/
def Next (c : Constants) : Action Agent → State Agent → State Agent → Prop
  | .requestSat a exp, s, s' => (s.clock + 1 ≤ exp ∧ exp ≤ c.maxTime) ∧ RequestSAT a exp s s'
  | .common action, s, s' => action.Next c s s'
  | .receiveKnk m, s, s' => ReceiveKNK m s s'
  | .parseSig a m, s, s' => ParseSig a m s s'
  | .verifySat a m sat, s, s' => VerifySAT a m sat s s'
  | .evaluateMama a score, s, s' => EvaluateMAMA c a score s s'

/-- `Spec`, without its fairness. -/
def spec (c : Constants) : System (Action Agent) (State Agent) where
  Init s := s = Vars.init
  Next := Next c

/-- `SATBound`. -/
def SATBound (s : State Agent) : Prop :=
  s.byzantineServer = false → ∀ a, s.state a = .established ∨ s.state a = .evaluateMama →
    ∃ sat ∈ s.satRegistry, sat.agent = a ∧ s.clock < sat.exp

end TrueFormal

end ThreatModel

end NhpSba
