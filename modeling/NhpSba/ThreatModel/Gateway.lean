import NhpSba.Common.System
import NhpSba.ThreatModel.Model.Gateway
/-!
# Threat model — what can be asked of any gateway

The models' states differ, but each holds for every agent the gateway's
state and counter, messages in transit, tokens, and a clock (`Gateway`).
Two things are read off these alone. Where a step leaves an agent alone or
admits a message of its own (`ActsOn`) the nonces admitted for the agent
increase (`admissions_increasing`); and a state is `Grounded` when it has
nothing that the constants do not leave to happen.
-/

namespace NhpSba

namespace ThreatModel

/-- What a state of a model holds of its gateway. -/
class Gateway (σ : Type*) (Agent : outParam Type*) where
  gatewayState : σ → Agent → GatewayState
  highestNonce : σ → Agent → ℤ
  /-- A message of the agent is in transit under the nonce. -/
  HasMessage : σ → Agent → ℤ → Prop
  /-- A token is registered with the expiry. -/
  HasToken : σ → ℤ → Prop
  clock : σ → ℤ

variable {σ ι Agent : Type*} [Gateway σ Agent] {a : Agent} {s s' : σ} {i : ι} {c : Constants}

open Gateway (gatewayState highestNonce HasMessage HasToken)

/-! ## Admissions -/

/-- The nonce with which a step moves an agent from PARSE_SIG to
VERIFY_SAT. -/
def admittedNonce (a : Agent) (t : σ × ι × σ) : Option ℤ :=
  if gatewayState t.1 a = .parseSig ∧ gatewayState t.2.2 a = .verifySat then
    some (highestNonce t.2.2 a)
  else none

/-- The nonces admitted for an agent along a run, in order. -/
def admissions (a : Agent) (ts : List (σ × ι × σ)) : List ℤ := ts.filterMap (admittedNonce a)

/-- A message of an agent is admitted: its nonce becomes the counter. -/
def Admits (a : Agent) (s s' : σ) : Prop :=
  ∃ n, HasMessage s a n ∧ highestNonce s a < n ∧ highestNonce s' a = n

/-- **What a step does to an agent**: it admits a message of the agent, or
leaves its counter and does not bring it to VERIFY_SAT. -/
def ActsOn (a : Agent) (s s' : σ) : Prop :=
  Admits a s s' ∨ highestNonce s' a = highestNonce s a ∧
    (gatewayState s' a = .verifySat → gatewayState s a = .verifySat)

theorem admittedNonce_eq_some {t : σ × ι × σ} {n : ℤ} :
    admittedNonce a t = some n ↔ (gatewayState t.1 a = .parseSig ∧
      gatewayState t.2.2 a = .verifySat) ∧ highestNonce t.2.2 a = n := by
  rw [admittedNonce, Option.ite_none_right_eq_some, Option.some.injEq]

/-- No step lowers a counter. -/
theorem ActsOn.highestNonce_le (h : ActsOn a s s') : highestNonce s a ≤ highestNonce s' a := by
  rcases h with ⟨n, -, hnew, hcounter⟩ | ⟨hsame, -⟩
  · exact hcounter ▸ le_of_lt hnew
  · exact le_of_eq hsame.symm

/-- A step that moves an agent to VERIFY_SAT admits a message of its own. -/
theorem ActsOn.admits (h : ActsOn a s s') {n : ℤ} (hn : admittedNonce a (s, i, s') = some n) :
    HasMessage s a n ∧ highestNonce s a < n := by
  obtain ⟨⟨hbefore, hafter⟩, rfl⟩ := admittedNonce_eq_some.1 hn
  rcases h with ⟨m, hm, hnew, hcounter⟩ | ⟨-, hstay⟩
  · exact ⟨hcounter ▸ hm, hcounter ▸ hnew⟩
  · exact absurd (hbefore.symm.trans (hstay hafter)) (by decide)

/-- **The nonces admitted for an agent increase** along every run. -/
theorem admissions_increasing {T : System ι σ}
    (hstep : ∀ i s s', T.Next i s s' → ActsOn a s s') {ts : List (σ × ι × σ)} (h : T.Run ts s) :
    (admissions a ts).Pairwise (· < ·) := by
  refine (h.pairwise_marks (fun s => highestNonce s a) ?_ ?_).1
  · intro i s s' hnext
    exact (hstep i s s' hnext).highestNonce_le
  · intro i s s' n hnext hn
    obtain ⟨-, hnew⟩ := (hstep i s s' hnext).admits hn
    exact ⟨hnew, le_of_eq (admittedNonce_eq_some.1 hn).2.symm⟩

/-! ## What the constants leave to happen -/

/-- The gateway has found a token for an agent. -/
def Verified (g : GatewayState) : Prop := g = .evaluateMama ∨ g = .established

/-- Nonces and expiries are within the bounds, and an agent is verified
only where there are nonces and expiries. -/
structure Grounded (c : Constants) (s : σ) : Prop where
  clock : 0 ≤ Gateway.clock s
  nonces : ∀ {a n}, HasMessage s a n → 1 ≤ n ∧ n ≤ c.maxNonce
  exps : ∀ {exp}, HasToken s exp → 1 ≤ exp ∧ exp ≤ c.maxTime
  verified : ∀ a, Verified (gatewayState s a) → 1 ≤ c.maxNonce ∧ 1 ≤ c.maxTime

/-- **What keeps a state grounded**: the clock does not run back, and what
is new of messages and tokens is within the bounds. -/
theorem Grounded.next (hs : Grounded c s) (hclock : Gateway.clock s ≤ Gateway.clock s')
    (hnonces : ∀ a n, HasMessage s' a n → HasMessage s a n ∨ 1 ≤ n ∧ n ≤ c.maxNonce)
    (hexps : ∀ exp, HasToken s' exp → HasToken s exp ∨ 1 ≤ exp ∧ exp ≤ c.maxTime)
    (hverified : ∀ a, Verified (gatewayState s' a) → 1 ≤ c.maxNonce ∧ 1 ≤ c.maxTime) :
    Grounded c s' where
  clock := hs.clock.trans hclock
  nonces h := (hnonces _ _ h).elim hs.nonces id
  exps h := (hexps _ h).elim hs.exps id
  verified := hverified

/-- A step of the gateway touches neither tokens, messages nor the clock. -/
theorem Grounded.moved (hs : Grounded c s) (hclock : Gateway.clock s' = Gateway.clock s)
    (hmessages : HasMessage s' = HasMessage s) (htokens : HasToken s' = HasToken s)
    (hverified : ∀ a, Verified (gatewayState s' a) → 1 ≤ c.maxNonce ∧ 1 ≤ c.maxTime) :
    Grounded c s' :=
  hs.next hclock.ge (fun _ _ h => Or.inl (hmessages ▸ h)) (fun _ h => Or.inl (htokens ▸ h))
    hverified

/-! ## Setting an agent's state -/

section Update

variable [DecidableEq Agent] {f : Agent → GatewayState} {g : GatewayState} {b : Agent}

/-- A gateway state that is set is not VERIFY_SAT unless that is set. -/
theorem verifySat_of_update (hg : g ≠ .verifySat) (h : Function.update f b g a = .verifySat) :
    f a = .verifySat := by
  by_cases hab : a = b
  · subst hab
    exact absurd ((Function.update_self ..).symm.trans h) hg
  · exact (Function.update_of_ne hab ..).symm.trans h

/-- Setting an agent's state keeps what the verified have in common. -/
theorem verified_update {P : Prop} (hf : ∀ a, Verified (f a) → P) (hg : Verified g → P) (b : Agent)
    (hb : Verified (Function.update f a g b)) : P := by
  by_cases hab : b = a
  · subst hab
    rw [Function.update_self] at hb
    exact hg hb
  · rw [Function.update_of_ne hab] at hb
    exact hf b hb

end Update

end ThreatModel

end NhpSba
