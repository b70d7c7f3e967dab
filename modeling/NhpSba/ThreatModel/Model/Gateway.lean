import Mathlib.Data.Int.Notation
import Mathlib.Data.Set.Insert
import Mathlib.Logic.Function.Basic
/-!
# Threat model — what the gateway models share

The TLA+ models of the gateway have their states, their bounds and their
messages in common, and the Deterministic, Snapshot and True models also
their variables but one and the actions of agents and adversary, word for
word. The set of agents is a type, and an action is given the messages and
tokens that it picks.
-/

namespace NhpSba

namespace ThreatModel

/-- The gateway's state for an agent. -/
inductive GatewayState
  | listen
  | parseSig
  | verifySat
  | evaluateMama
  | established
  | corrupted
  deriving DecidableEq

/-- The constants of a model, beside its agents. -/
structure Constants where
  maxNonce : ℤ
  maxTime : ℤ
  minSafetyScore : ℤ

/-- The bounds in the configurations of the checked models. -/
def checkedBounds : Constants where
  maxNonce := 2
  maxTime := 3
  minSafetyScore := 85

/-- The one type of message. -/
inductive MessageType
  | knk
  deriving DecidableEq

/-- A message in the network. -/
structure Message (Agent : Type*) where
  type : MessageType
  agent : Agent
  nonce : ℤ

/-- The variables of the Deterministic and the True model, over the
tokens of each. -/
structure Vars (Agent Sat : Type*) where
  state : Agent → GatewayState
  highestNonce : Agent → ℤ
  satRegistry : Set Sat
  network : Set (Message Agent)
  clock : ℤ
  byzantineServer : Bool
  byzantineAc : Bool
  networkPartition : Bool

namespace Vars

variable {Agent Sat : Type*}

/-- `Init`. -/
def init : Vars Agent Sat where
  state := fun _ => .listen
  highestNonce := fun _ => 0
  satRegistry := ∅
  network := ∅
  clock := 0
  byzantineServer := false
  byzantineAc := false
  networkPartition := false

/-- `SendHandshake(a, nonce)`. -/
def SendHandshake (c : Constants) (a : Agent) (nonce : ℤ) (s s' : Vars Agent Sat) : Prop :=
  (1 ≤ nonce ∧ nonce ≤ c.maxNonce) ∧
    s' = { s with network := s.network ∪ {{ type := .knk, agent := a, nonce }} }

/-- `MaliciousReplay`, of a message. -/
def MaliciousReplay (m : Message Agent) (s s' : Vars Agent Sat) : Prop :=
  m ∈ s.network ∧ s' = { s with network := s.network ∪ {m} }

/-- `CompromiseServer`. -/
def CompromiseServer (s s' : Vars Agent Sat) : Prop :=
  s.byzantineServer = false ∧ s' = { s with byzantineServer := true }

/-- `CompromiseAC`. -/
def CompromiseAC (s s' : Vars Agent Sat) : Prop :=
  s.byzantineAc = false ∧ s' = { s with byzantineAc := true }

/-- `TogglePartition`. -/
def TogglePartition (s s' : Vars Agent Sat) : Prop :=
  s' = { s with networkPartition := !s.networkPartition }

/-- `UndefinedBehaviorHandling(a)`. -/
def UndefinedBehaviorHandling [DecidableEq Agent] (a : Agent) (s s' : Vars Agent Sat) : Prop :=
  s.state a = .corrupted ∧ s' = { s with state := Function.update s.state a .listen }

/-- `Tick`. -/
def Tick (c : Constants) (s s' : Vars Agent Sat) : Prop :=
  s.clock < c.maxTime ∧ s' = { s with clock := s.clock + 1 }

end Vars

/-- The actions that the three models share. -/
inductive CommonAction (Agent : Type*)
  | sendHandshake (a : Agent) (nonce : ℤ)
  | maliciousReplay (m : Message Agent)
  | compromiseServer
  | compromiseAc
  | togglePartition
  | undefinedBehaviorHandling (a : Agent)
  | tick

/-- Their disjuncts of `Next`. -/
def CommonAction.Next {Agent Sat : Type*} [DecidableEq Agent] (c : Constants) :
    CommonAction Agent → Vars Agent Sat → Vars Agent Sat → Prop
  | .sendHandshake a n, s, s' => (1 ≤ n ∧ n ≤ c.maxNonce) ∧ Vars.SendHandshake c a n s s'
  | .maliciousReplay m, s, s' => Vars.MaliciousReplay m s s'
  | .compromiseServer, s, s' => Vars.CompromiseServer s s'
  | .compromiseAc, s, s' => Vars.CompromiseAC s s'
  | .togglePartition, s, s' => Vars.TogglePartition s s'
  | .undefinedBehaviorHandling a, s, s' => Vars.UndefinedBehaviorHandling a s s'
  | .tick, s, s' => Vars.Tick c s s'

end ThreatModel

end NhpSba
