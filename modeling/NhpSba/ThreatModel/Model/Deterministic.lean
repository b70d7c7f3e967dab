import NhpSba.Common.Behaviour
import NhpSba.ThreatModel.Model.Gateway
/-!
# Threat model — the Deterministic model

`ZTCPP_Deterministic_Model.tla`: one macro-step verifies a handshake and
evaluates it, against one reading of the clock.
-/

namespace NhpSba

namespace ThreatModel

namespace Deterministic

/-- A token of the registry. -/
structure Sat (Agent : Type*) where
  agent : Agent
  iat : ℤ
  exp : ℤ
  active : Bool

/-- `vars`. -/
abbrev State (Agent : Type*) := Vars Agent (Sat Agent)

variable {Agent : Type*}

/-- `RequestSAT(a, iat, exp)`. -/
def RequestSAT (a : Agent) (iat exp : ℤ) (s s' : State Agent) : Prop :=
  iat ≤ exp ∧
    s' = { s with satRegistry := s.satRegistry ∪ {{ agent := a, iat, exp, active := true }} }

/-- The entry guard: all checks, at one reading of the clock. -/
def EntryGuard (c : Constants) (a : Agent) (m : Message Agent) (sat : Sat Agent) (score : ℤ)
    (s : State Agent) : Prop :=
  (s.highestNonce a < m.nonce ∨ s.byzantineServer = true) ∧
    ((sat.iat ≤ s.clock ∧ s.clock ≤ sat.exp) ∨ s.byzantineServer = true) ∧
    (c.minSafetyScore ≤ score ∨ s.byzantineAc = true ∨ s.byzantineServer = true)

instance (c : Constants) (a : Agent) (m : Message Agent) (sat : Sat Agent) (score : ℤ)
    (s : State Agent) : Decidable (EntryGuard c a m sat score s) := instDecidableAnd

/-- What the macro-step for an agent asks before it looks at the entry
guard: no partition, an agent that is not under way, and a message, a token
and a score to judge. -/
def Entry (a : Agent) (m : Message Agent) (sat : Sat Agent) (score : ℤ) (s : State Agent) : Prop :=
  s.networkPartition = false ∧ (s.state a = .listen ∨ s.state a = .corrupted) ∧
    (m ∈ s.network ∧ m.agent = a ∧ m.type = .knk) ∧ (sat ∈ s.satRegistry ∧ sat.agent = a) ∧
    0 ≤ score ∧ score ≤ 100

variable [DecidableEq Agent]

/-- `AtomicVerifyAndEvaluate(a)`, on a message, a token and a score. -/
def AtomicVerifyAndEvaluate (c : Constants) (a : Agent) (m : Message Agent) (sat : Sat Agent)
    (score : ℤ) (s s' : State Agent) : Prop :=
  Entry a m sat score s ∧
    s' = if EntryGuard c a m sat score s then
      { s with
        highestNonce := Function.update s.highestNonce a m.nonce
        state := Function.update s.state a .established }
    else { s with state := Function.update s.state a .listen }

/-- An action, with all that it picks. -/
inductive Action (Agent : Type*)
  | requestSat (a : Agent) (iat exp : ℤ)
  | common (action : CommonAction Agent)
  | atomicVerifyAndEvaluate (a : Agent) (m : Message Agent) (sat : Sat Agent) (score : ℤ)

/-- `Next`. -/
def Next (c : Constants) : Action Agent → State Agent → State Agent → Prop
  | .requestSat a iat exp, s, s' =>
    (0 ≤ iat ∧ iat ≤ s.clock) ∧ (s.clock + 1 ≤ exp ∧ exp ≤ c.maxTime) ∧ RequestSAT a iat exp s s'
  | .common action, s, s' => action.Next c s s'
  | .atomicVerifyAndEvaluate a m sat score, s, s' => AtomicVerifyAndEvaluate c a m sat score s s'

/-- `Spec`, without its fairness. -/
def spec (c : Constants) : System (Action Agent) (State Agent) where
  Init s := s = Vars.init
  Next := Next c

/-- `NHPAC`. -/
def NHPAC (c : Constants) (s s' : State Agent) : Prop :=
  ∃ a m sat score, AtomicVerifyAndEvaluate c a m sat score s s'

/-- `SGC`. -/
def SGC (s s' : State Agent) : Prop := ∃ a, Vars.UndefinedBehaviorHandling a s s'

/-- `Spec`. -/
structure FairSpec (c : Constants) (b : ℕ → State Agent) : Prop where
  behaviour : (spec c).Behaviour b
  nhpac : System.WeaklyFair (NHPAC c) b
  sgc : System.StronglyFair SGC b

/-- `SATValidityInvariant`. -/
def SATValidityInvariant (s : State Agent) : Prop :=
  s.byzantineServer = false → ∀ a, s.state a = .established →
    ∃ sat ∈ s.satRegistry, sat.agent = a ∧ sat.iat ≤ s.clock ∧ s.clock ≤ sat.exp

end Deterministic

end ThreatModel

end NhpSba
