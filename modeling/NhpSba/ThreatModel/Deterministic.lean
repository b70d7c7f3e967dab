import NhpSba.ThreatModel.Model.Deterministic
/-!
# Threat model — what a step of the Deterministic model does

To an agent a step does one of two things (`next_cases`): it lets the agent
in by the entry guard, or it leaves the agent's state or sends it back to
LISTEN, with the agent's nonce counter alone. Everything else only grows
(`Next.later`): the registry, the network, the clock, and the server's
corruption.
-/

namespace NhpSba

namespace ThreatModel

variable {Agent : Type*} {c : Constants}

/-! ## What no step takes back -/

/-- A state comes later than another: tokens and messages stay, the clock
does not go back, and a server once compromised stays so. -/
structure Vars.Later {Sat : Type*} (s s' : Vars Agent Sat) : Prop where
  satRegistry : s.satRegistry ⊆ s'.satRegistry
  network : s.network ⊆ s'.network
  clock : s.clock ≤ s'.clock
  byzantineServer : s'.byzantineServer = false → s.byzantineServer = false

section Common

variable {Sat : Type*} [DecidableEq Agent] {action : CommonAction Agent} {s s' : Vars Agent Sat}

theorem CommonAction.later (h : action.Next c s s') : s.Later s' := by
  have hgrows : ∀ m : Message Agent, s.network ⊆ s.network ∪ {m} := fun m =>
    Set.subset_union_left
  cases action with
  | sendHandshake a nonce =>
    obtain ⟨-, -, rfl⟩ := h
    exact ⟨Set.Subset.rfl, hgrows _, le_refl _, id⟩
  | maliciousReplay m =>
    obtain ⟨-, rfl⟩ := h
    exact ⟨Set.Subset.rfl, hgrows _, le_refl _, id⟩
  | compromiseServer =>
    obtain ⟨hhonest, rfl⟩ := h
    exact ⟨Set.Subset.rfl, Set.Subset.rfl, le_refl _, fun _ => hhonest⟩
  | compromiseAc =>
    obtain ⟨-, rfl⟩ := h
    exact ⟨Set.Subset.rfl, Set.Subset.rfl, le_refl _, id⟩
  | togglePartition =>
    obtain rfl := h
    exact ⟨Set.Subset.rfl, Set.Subset.rfl, le_refl _, id⟩
  | undefinedBehaviorHandling a =>
    obtain ⟨-, rfl⟩ := h
    exact ⟨Set.Subset.rfl, Set.Subset.rfl, le_refl _, id⟩
  | tick =>
    obtain ⟨-, rfl⟩ := h
    exact ⟨Set.Subset.rfl, Set.Subset.rfl, Int.le_add_one (le_refl _), id⟩

/-- A shared action moves an agent to LISTEN at most, and no counter. -/
theorem CommonAction.agent_cases (h : action.Next c s s') (a : Agent) :
    (s'.state a = s.state a ∨ s'.state a = .listen) ∧ s'.highestNonce a = s.highestNonce a := by
  cases action with
  | undefinedBehaviorHandling b =>
    obtain ⟨-, rfl⟩ := h
    by_cases hab : a = b
    · subst hab
      exact ⟨Or.inr (Function.update_self ..), rfl⟩
    · exact ⟨Or.inl (Function.update_of_ne hab ..), rfl⟩
  | sendHandshake b nonce =>
    obtain ⟨-, -, rfl⟩ := h
    exact ⟨Or.inl rfl, rfl⟩
  | togglePartition =>
    obtain rfl := h
    exact ⟨Or.inl rfl, rfl⟩
  | maliciousReplay _ | compromiseServer | compromiseAc | tick =>
    obtain ⟨-, rfl⟩ := h
    exact ⟨Or.inl rfl, rfl⟩

end Common

namespace Deterministic

variable [DecidableEq Agent] {i : Action Agent} {s s' : State Agent}

theorem Next.later (h : Next c i s s') : s.Later s' := by
  cases i with
  | requestSat a iat exp =>
    obtain ⟨-, -, -, rfl⟩ := h
    exact ⟨Set.subset_union_left, Set.Subset.rfl, le_refl _, id⟩
  | common action => exact CommonAction.later h
  | atomicVerifyAndEvaluate a m sat score =>
    obtain ⟨-, rfl⟩ := h
    split
    · exact ⟨Set.Subset.rfl, Set.Subset.rfl, le_refl _, id⟩
    · exact ⟨Set.Subset.rfl, Set.Subset.rfl, le_refl _, id⟩

/-- An action lets an agent in, by a message, a token and a score. -/
def LetsIn (c : Constants) (a : Agent) (m : Message Agent) (sat : Sat Agent) (score : ℤ)
    (i : Action Agent) (s : State Agent) : Prop :=
  i = .atomicVerifyAndEvaluate a m sat score ∧ Entry a m sat score s ∧
    EntryGuard c a m sat score s

/-- **What a step does to an agent.** It lets the agent in, or it sends it
to LISTEN at most and leaves its counter alone. -/
theorem next_cases (h : Next c i s s') (a : Agent) :
    (∃ m sat score, LetsIn c a m sat score i s) ∨
      ((s'.state a = s.state a ∨ s'.state a = .listen) ∧
        s'.highestNonce a = s.highestNonce a) := by
  cases i with
  | requestSat b iat exp =>
    obtain ⟨-, -, -, rfl⟩ := h
    exact Or.inr ⟨Or.inl rfl, rfl⟩
  | common action => exact Or.inr (CommonAction.agent_cases h a)
  | atomicVerifyAndEvaluate b m sat score =>
    obtain ⟨hentry, rfl⟩ := h
    -- past the entry guard only the agent of the action moves
    by_cases hguard : EntryGuard c b m sat score s
    · rw [if_pos hguard]
      by_cases hab : a = b
      · subst hab
        exact Or.inl ⟨m, sat, score, rfl, hentry, hguard⟩
      · exact Or.inr ⟨Or.inl (Function.update_of_ne hab ..), Function.update_of_ne hab ..⟩
    · rw [if_neg hguard]
      by_cases hab : a = b
      · subst hab
        exact Or.inr ⟨Or.inr (Function.update_self ..), rfl⟩
      · exact Or.inr ⟨Or.inl (Function.update_of_ne hab ..), rfl⟩

/-- **What letting in does**: the agent is ESTABLISHED, its counter is the
message's nonce, and nothing else changes. -/
theorem next_letsIn {a : Agent} {m : Message Agent} {sat : Sat Agent} {score : ℤ}
    (h : Next c i s s') (hin : LetsIn c a m sat score i s) :
    s' = { s with
      highestNonce := Function.update s.highestNonce a m.nonce
      state := Function.update s.state a .established } := by
  obtain ⟨rfl, -, hguard⟩ := hin
  obtain ⟨-, rfl⟩ := h
  exact if_pos hguard

/-- **No step lowers a counter** while the server is honest. -/
theorem highestNonce_le (h : Next c i s s') (hhonest : s.byzantineServer = false) (a : Agent) :
    s.highestNonce a ≤ s'.highestNonce a := by
  rcases next_cases h a with ⟨m, sat, score, hin⟩ | ⟨-, hsame⟩
  · have hguard := hin.2.2.1
    rw [hhonest] at hguard
    have hlt : s.highestNonce a < m.nonce := by simpa using hguard
    rw [next_letsIn h hin]
    simpa using le_of_lt hlt
  · exact le_of_eq hsame.symm

/-- The counter of an agent is the nonce of a message of its. -/
def Heard (a : Agent) (s : State Agent) : Prop :=
  ∃ m ∈ s.network, m.agent = a ∧ m.nonce = s.highestNonce a

theorem heard_step (h : Next c i s s')
    (hs : ∀ a, s.state a = .established → Heard a s) (a : Agent)
    (ha : s'.state a = .established) : Heard a s' := by
  rcases next_cases h a with ⟨m, sat, score, hin⟩ | ⟨hstate, hsame⟩
  · obtain ⟨-, -, ⟨hm, hagent, -⟩, -⟩ := hin.2.1
    refine ⟨m, h.later.network hm, hagent, ?_⟩
    rw [next_letsIn h hin]
    exact (Function.update_self a m.nonce s.highestNonce).symm
  · have hbefore : s.state a = .established := by
      rcases hstate with hkept | hlisten
      · exact hkept ▸ ha
      · rw [hlisten] at ha
        cases ha
    obtain ⟨m, hm, hagent, hnonce⟩ := hs a hbefore
    exact ⟨m, h.later.network hm, hagent, hnonce.trans hsame.symm⟩

/-- **An agent that is let in was heard**: its counter is the nonce of a
message of its in the network, whoever is compromised. -/
theorem heard_of_established (h : (spec c).Reachable s) {a : Agent}
    (ha : s.state a = .established) : Heard a s := by
  refine h.invariant (I := fun s => ∀ a, s.state a = .established → Heard a s) ?_ ?_ a ha
  · rintro s rfl a ha
    cases ha
  · intro i s s' hs hnext
    exact heard_step hnext hs

/-! ## A run of one agent -/

/-- A token for the first two readings of the clock. -/
def token : Sat Unit where
  agent := ()
  iat := 0
  exp := 1
  active := true

/-- The agent's first handshake. -/
def handshake : Message Unit where
  type := .knk
  agent := ()
  nonce := 1

/-- The agent has its token and has sent its handshake. -/
def ready (now : ℤ) : State Unit :=
  { (Vars.init : State Unit) with
    satRegistry := ∅ ∪ {token}, network := ∅ ∪ {handshake}, clock := now }

/-- And then it is let in. -/
def entered (now : ℤ) : State Unit :=
  { ready now with
    highestNonce := Function.update (ready now).highestNonce () 1
    state := Function.update (ready now).state () .established }

theorem ready_reachable : (spec checkedBounds).Reachable (ready 0) := by
  have hrequest := (System.Reachable.init (T := spec checkedBounds) (s := Vars.init) rfl).step
    (.requestSat () 0 1) ⟨by decide, by decide, by decide, rfl⟩
  exact hrequest.step (.common (.sendHandshake () 1)) ⟨by decide, by decide, rfl⟩

/-- The token's last reading of the clock. -/
theorem ready_reachable_last : (spec checkedBounds).Reachable (ready 1) :=
  ready_reachable.step (.common .tick) ⟨by decide, rfl⟩

theorem entered_next {now : ℤ} (h : 0 ≤ now ∧ now ≤ 1) :
    AtomicVerifyAndEvaluate checkedBounds () handshake token 85 (ready now) (entered now) := by
  have hmessage : handshake ∈ (ready now).network := Or.inr rfl
  have htoken : token ∈ (ready now).satRegistry := Or.inr rfl
  have hnonce : (ready now).highestNonce () < handshake.nonce := Int.zero_lt_one
  have hguard : EntryGuard checkedBounds () handshake token 85 (ready now) :=
    ⟨Or.inl hnonce, Or.inl h, Or.inl (le_refl 85)⟩
  exact ⟨⟨rfl, Or.inl rfl, ⟨hmessage, rfl, rfl⟩, ⟨htoken, rfl⟩, by decide⟩, (if_pos hguard).symm⟩

theorem entered_reachable : (spec checkedBounds).Reachable (entered 0) :=
  ready_reachable.step (.atomicVerifyAndEvaluate () handshake token 85) (entered_next (by decide))

end Deterministic

end ThreatModel

end NhpSba
