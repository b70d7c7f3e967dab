import NhpSba.Common.OneByOne
import NhpSba.ThreatModel.Deterministic
/-!
# Threat model — what the shared actions do, and where they lead

The actions that the Deterministic, the Snapshot and the True model share
add to the network, to the clock and to whom the adversary has, and leave
everyone but a corrupted agent where it is. Whatever model takes them
(`Takes`) gets as many messages, as late a reading of the clock, and whom
compromised, as is asked for.
-/

namespace NhpSba

namespace ThreatModel

variable {Agent Sat : Type*} [DecidableEq Agent] {c : Constants}

section Steps

variable {action : CommonAction Agent} {s s' : Vars Agent Sat} {a : Agent}

theorem CommonAction.network_grows (h : action.Next c s s') :
    s'.network = s.network ∨ ∃ m, s'.network = s.network ∪ {m} := by
  cases action with
  | sendHandshake b nonce =>
    obtain ⟨-, -, rfl⟩ := h
    exact Or.inr ⟨_, rfl⟩
  | maliciousReplay m =>
    obtain ⟨-, rfl⟩ := h
    exact Or.inr ⟨_, rfl⟩
  | togglePartition =>
    obtain rfl := h
    exact Or.inl rfl
  | compromiseServer | compromiseAc | undefinedBehaviorHandling _ | tick =>
    obtain ⟨-, rfl⟩ := h
    exact Or.inl rfl

/-- A policy engine once compromised stays so. -/
theorem CommonAction.byzantineAc (h : action.Next c s s') (hbyzantine : s.byzantineAc = true) :
    s'.byzantineAc = true := by
  cases action with
  | sendHandshake b nonce =>
    obtain ⟨-, -, rfl⟩ := h
    exact hbyzantine
  | togglePartition =>
    obtain rfl := h
    exact hbyzantine
  | compromiseAc =>
    obtain ⟨-, rfl⟩ := h
    rfl
  | maliciousReplay _ | compromiseServer | undefinedBehaviorHandling _ | tick =>
    obtain ⟨-, rfl⟩ := h
    exact hbyzantine

omit [DecidableEq Agent] in
/-- And so does a server. -/
theorem Vars.Later.compromised (h : s.Later s') (hbyzantine : s.byzantineServer = true) :
    s'.byzantineServer = true := by
  by_contra hhonest
  rw [Bool.not_eq_true] at hhonest
  cases hbyzantine.symm.trans (h.byzantineServer hhonest)

/-- Only a corrupted agent is moved. -/
theorem CommonAction.state_eq (h : action.Next c s s') (ha : s.state a ≠ .corrupted) :
    s'.state a = s.state a := by
  cases action with
  | sendHandshake b nonce =>
    obtain ⟨-, -, rfl⟩ := h
    rfl
  | togglePartition =>
    obtain rfl := h
    rfl
  | undefinedBehaviorHandling b =>
    obtain ⟨hcorrupted, rfl⟩ := h
    have hab : a ≠ b := fun hab => ha (hab ▸ hcorrupted)
    exact Function.update_of_ne hab ..
  | maliciousReplay _ | compromiseServer | compromiseAc | tick =>
    obtain ⟨-, rfl⟩ := h
    rfl

end Steps

/-! ## Where they lead -/

variable {ι σ : Type*} {T : System ι σ} {put : Vars Agent Sat → σ} {v : Vars Agent Sat}
  {allowed : CommonAction Agent → Prop}

variable (c T put allowed) in
/-- A system takes the shared actions that are allowed, on a part of its
states. -/
def Takes : Prop :=
  ∀ action v v', allowed action → action.Next c v v' → T.Reachable (put v) → T.Reachable (put v')

/-- The messages are sent. -/
theorem Takes.sent (hT : Takes c T put allowed) (hallowed : ∀ a n, allowed (.sendHandshake a n))
    {sent : Set (Message Agent)} (hfinite : sent.Finite)
    (hnonces : ∀ m ∈ sent, 1 ≤ m.nonce ∧ m.nonce ≤ c.maxNonce) (h : T.Reachable (put v)) :
    T.Reachable (put { v with network := v.network ∪ sent }) := by
  refine of_finite (P := fun network => T.Reachable (put { v with network := network })) hfinite h
    fun m hm network hreach => ?_
  exact hT (.sendHandshake m.agent m.nonce) _ _ (hallowed ..) ⟨hnonces m hm, hnonces m hm, rfl⟩
    hreach

/-- The clock ticks. -/
theorem Takes.ticked (hT : Takes c T put allowed) (hallowed : allowed .tick)
    (h : T.Reachable (put v)) (k : ℕ) (htime : k = 0 ∨ v.clock + k ≤ c.maxTime) :
    T.Reachable (put { v with clock := v.clock + k }) := by
  induction k with
  | zero =>
    have hzero : v.clock + (0 : ℕ) = v.clock := by omega
    rw [hzero]
    exact h
  | succ k ih =>
    have hsucc : v.clock + (k + 1 : ℕ) = v.clock + k + 1 := by omega
    have hnext : v.clock + k < c.maxTime := by omega
    rw [hsucc]
    exact hT .tick _ _ hallowed ⟨hnext, rfl⟩ (ih (Or.inr (le_of_lt hnext)))

/-- The adversary takes whom it will. -/
theorem Takes.compromised (hT : Takes c T put allowed) (hserver : v.byzantineServer = false)
    (hac : v.byzantineAc = false) (server ac : Bool)
    (hallowed : server = true → allowed .compromiseServer)
    (hallowed' : ac = true → allowed .compromiseAc) (h : T.Reachable (put v)) :
    T.Reachable (put { v with byzantineServer := server, byzantineAc := ac }) := by
  have hfirst : T.Reachable (put { v with byzantineServer := server }) := by
    cases server with
    | false =>
      rw [← hserver]
      exact h
    | true => exact hT .compromiseServer _ _ (hallowed rfl) ⟨hserver, rfl⟩ h
  cases ac with
  | false =>
    rw [← hac]
    exact hfirst
  | true =>
    exact hT .compromiseAc { v with byzantineServer := server } _ (hallowed' rfl) ⟨hac, rfl⟩ hfirst

/-- The partition is as it will be. -/
theorem Takes.partitioned (hT : Takes c T put allowed) (hpartition : v.networkPartition = false)
    (partition : Bool) (hallowed : partition = true → allowed .togglePartition)
    (h : T.Reachable (put v)) :
    T.Reachable (put { v with networkPartition := partition }) := by
  cases partition with
  | false =>
    rw [← hpartition]
    exact h
  | true =>
    have htoggled : Vars.TogglePartition v { v with networkPartition := true } := by
      rw [Vars.TogglePartition, hpartition]
      rfl
    exact hT .togglePartition _ _ (hallowed rfl) htoggled h

end ThreatModel

end NhpSba
