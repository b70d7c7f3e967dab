import NhpSba.ThreatModel.Model.Deterministic
/-!
# Threat model — the Snapshot model

`ZTCPP_Snapshot_Model.tla`: the Deterministic model with one more variable,
the clock reading at which an agent's session was let in.
-/

namespace NhpSba

namespace ThreatModel

namespace Snapshot

open Deterministic (Sat Action Entry EntryGuard)

/-- `vars`. -/
structure State (Agent : Type*) extends Vars Agent (Sat Agent) where
  sessionSnapshot : Agent → ℤ

variable {Agent : Type*}

/-- `Init`. -/
def init : State Agent where
  toVars := Vars.init
  sessionSnapshot := fun _ => 0

/-- An action on the other variables, with `session_snapshot` unchanged. -/
def KeepsSnapshot (action : Vars Agent (Sat Agent) → Vars Agent (Sat Agent) → Prop)
    (s s' : State Agent) : Prop :=
  action s.toVars s'.toVars ∧ s'.sessionSnapshot = s.sessionSnapshot

variable [DecidableEq Agent]

/-- `AtomicVerifyAndEvaluate(a)`, on a message, a token and a score. -/
def AtomicVerifyAndEvaluate (c : Constants) (a : Agent) (m : Message Agent) (sat : Sat Agent)
    (score : ℤ) (s s' : State Agent) : Prop :=
  Entry a m sat score s.toVars ∧
    s' = if EntryGuard c a m sat score s.toVars then
      { s with
        highestNonce := Function.update s.highestNonce a m.nonce
        sessionSnapshot := Function.update s.sessionSnapshot a s.clock
        state := Function.update s.state a .established }
    else { s with state := Function.update s.state a .listen }

/-- `Next`. -/
def Next (c : Constants) : Action Agent → State Agent → State Agent → Prop
  | .requestSat a iat exp, s, s' =>
    (0 ≤ iat ∧ iat ≤ s.clock) ∧ (s.clock + 1 ≤ exp ∧ exp ≤ c.maxTime) ∧
      KeepsSnapshot (Deterministic.RequestSAT a iat exp) s s'
  | .common action, s, s' => KeepsSnapshot (action.Next c) s s'
  | .atomicVerifyAndEvaluate a m sat score, s, s' => AtomicVerifyAndEvaluate c a m sat score s s'

/-- `Spec`, without its fairness. -/
def spec (c : Constants) : System (Action Agent) (State Agent) where
  Init s := s = init
  Next := Next c

/-- `NHPAC`. -/
def NHPAC (c : Constants) (s s' : State Agent) : Prop :=
  ∃ a m sat score, AtomicVerifyAndEvaluate c a m sat score s s'

/-- `SGC`. -/
def SGC (s s' : State Agent) : Prop :=
  ∃ a, KeepsSnapshot (Vars.UndefinedBehaviorHandling a) s s'

/-- `Spec`. -/
structure FairSpec (c : Constants) (b : ℕ → State Agent) : Prop where
  behaviour : (spec c).Behaviour b
  nhpac : System.WeaklyFair (NHPAC c) b
  sgc : System.StronglyFair SGC b

end Snapshot

end ThreatModel

end NhpSba
