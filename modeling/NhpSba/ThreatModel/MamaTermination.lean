import Mathlib.Data.Set.Card
import Mathlib.Data.Set.Finite.Lemmas
import Mathlib.Order.Interval.Finset.Basic
import Mathlib.Data.Int.Interval
import NhpSba.ThreatModel.IntentBinding
/-!
# Threat model — when an evaluation comes to its end

The formal model is fair to its steps as a whole. With one agent that is
enough: while the agent waits for its evaluation only tokens, messages and
the clock can change, and they run out (`pending_lt_of_changes`). With two
agents it is not: the gateway may receive and refuse one agent's handshake
for ever while the other waits (`exists_fair_waiting`).
-/

namespace NhpSba

namespace ThreatModel

namespace Formal

variable {Agent : Type*} [DecidableEq Agent] {c : Constants} {i : Action Agent} {a : Agent}
  {s s' : State Agent}

/-! ## What the constants leave to happen -/

instance : Gateway (State Agent) Agent where
  gatewayState := State.gatewayState
  highestNonce := State.highestNonce
  HasMessage s a n := ∃ m ∈ s.messages, m.agent = a ∧ m.nonce = n
  HasToken s exp := ∃ sat ∈ s.satRegistry, sat.exp = exp
  clock := State.clock

omit [DecidableEq Agent] in
theorem grounded_init (mamaScores : Agent → ℤ) : Grounded c (init mamaScores) where
  clock := le_rfl
  nonces := fun ⟨_, hm, _⟩ => hm.elim
  exps := fun ⟨_, hsat, _⟩ => hsat.elim
  verified := fun a ha => by rcases ha with ha | ha <;> cases ha

theorem grounded_step (hs : Grounded c s) (h : Next c i s s') : Grounded c s' := by
  have hverified : ∀ a, Verified (s'.gatewayState a) → 1 ≤ c.maxNonce ∧ 1 ≤ c.maxTime := by
    intro a ha
    rcases (next_verified h ha).1 with ⟨m, sat, rfl⟩ | hbefore
    · obtain ⟨-, ⟨hm, -⟩, ⟨hsat, -⟩, -⟩ := h
      have hnonce := hs.nonces ⟨m, hm, rfl, rfl⟩
      have hexp := hs.exps ⟨sat, hsat, rfl⟩
      exact ⟨le_trans hnonce.1 hnonce.2, le_trans hexp.1 hexp.2⟩
    · exact hs.verified a hbefore
  cases i with
  | agentRequestIntent a exp intent =>
    obtain ⟨hexp, rfl⟩ := h
    have hclock : 0 ≤ s.clock := hs.clock
    have hpositive : 1 ≤ exp := by omega
    refine hs.next le_rfl (fun a n => Or.inl) ?_ hverified
    rintro _ ⟨sat, hsat | rfl, rfl⟩
    · exact Or.inl ⟨sat, hsat, rfl⟩
    · exact Or.inr ⟨hpositive, hexp.2⟩
  | agentSendHandshake a nonce intent =>
    obtain ⟨hnonce, -, rfl⟩ := h
    refine hs.next le_rfl ?_ (fun exp => Or.inl) hverified
    rintro a n ⟨m, hm | rfl, hagent, rfl⟩
    · exact Or.inl ⟨m, hm, hagent, rfl⟩
    · exact Or.inr hnonce
  | gatewayReceiveKnk m =>
    obtain ⟨-, -, -, rfl⟩ := h
    exact hs.moved rfl rfl rfl hverified
  | gatewayParseSig a m =>
    obtain ⟨-, -, rfl⟩ := h
    exact hs.moved (by split <;> rfl) (by split <;> rfl) (by split <;> rfl) hverified
  | gatewayVerifySat a m sat =>
    obtain ⟨-, -, -, rfl⟩ := h
    exact hs.moved (by split <;> rfl) (by split <;> rfl) (by split <;> rfl) hverified
  | gatewayEvaluateMama a =>
    obtain ⟨-, rfl⟩ := h
    exact hs.moved (by split <;> rfl) (by split <;> rfl) (by split <;> rfl) hverified
  | tickClock =>
    obtain ⟨-, rfl⟩ := h
    have hclock : s.clock ≤ s.clock + 1 := Int.le_add_one le_rfl
    exact hs.next hclock (fun a n => Or.inl) (fun exp => Or.inl) hverified

theorem grounded_of_reachable (h : (spec c).Reachable s) : Grounded c s := by
  refine h.invariant ?_ ?_
  · rintro s ⟨mamaScores, -, rfl⟩
    exact grounded_init mamaScores
  · intro i s s' hs hnext
    exact grounded_step hs hnext

/-! ## One agent -/

variable (Agent c) in
/-- The tokens that may ever be asked for. -/
def tokens : Set (Sat Agent) := {sat | (1 ≤ sat.exp ∧ sat.exp ≤ c.maxTime) ∧ sat.active = true}

variable (Agent c) in
/-- The messages that may ever be sent. -/
def sendable : Set (Message Agent) := {m | 1 ≤ m.nonce ∧ m.nonce ≤ c.maxNonce}

omit [DecidableEq Agent] in
theorem finite_tokens [Finite Agent] : (tokens Agent c).Finite := by
  have hfinite : (Set.univ ×ˢ Set.Icc 1 c.maxTime ×ˢ {Intent.beamform, .monitor} :
      Set (Agent × ℤ × Intent)).Finite :=
    Set.finite_univ.prod ((Set.finite_Icc ..).prod (Set.toFinite _))
  refine (hfinite.image fun x =>
    ({ agent := x.1, exp := x.2.1, intent := x.2.2, active := true } : Sat Agent)).subset ?_
  rintro ⟨agent, exp, intent, active⟩ ⟨hexp, rfl⟩
  refine ⟨(agent, exp, intent), ⟨trivial, hexp, ?_⟩, rfl⟩
  cases intent
  · exact Or.inl rfl
  · exact Or.inr rfl

omit [DecidableEq Agent] in
theorem finite_sendable [Finite Agent] : (sendable Agent c).Finite := by
  have hfinite : (Set.univ ×ˢ Set.Icc 1 c.maxNonce ×ˢ {Intent.beamform, .monitor} :
      Set (Agent × ℤ × Intent)).Finite :=
    Set.finite_univ.prod ((Set.finite_Icc ..).prod (Set.toFinite _))
  refine (hfinite.image fun x =>
    ({ type := .knk, agent := x.1, nonce := x.2.1, intent := x.2.2 } : Message Agent)).subset ?_
  rintro ⟨⟨⟩, agent, nonce, intent⟩ hnonce
  refine ⟨(agent, nonce, intent), ⟨trivial, hnonce, ?_⟩, rfl⟩
  cases intent
  · exact Or.inl rfl
  · exact Or.inr rfl

/-- One more element leaves fewer to come. -/
theorem ncard_diff_lt {α : Type*} {all seen : Set α} {x : α} (hfinite : all.Finite) (hx : x ∈ all)
    (hnew : x ∉ seen) : (all \ (seen ∪ {x})).ncard < (all \ seen).ncard := by
  rw [← Set.sdiff_sdiff]
  exact Set.ncard_sdiff_singleton_lt_of_mem ⟨hx, hnew⟩ (hfinite.subset Set.sdiff_subset)

variable (c) in
/-- How many tokens, messages and ticks are still to come. -/
noncomputable def pending (s : State Agent) : ℕ :=
  (tokens Agent c \ s.satRegistry).ncard + (sendable Agent c \ s.messages).ncard +
    (c.maxTime - s.clock).toNat

/-- **While the one agent waits for its evaluation** a step that changes
anything ends it, or there is less to come. -/
theorem pending_lt_of_changes [Subsingleton Agent] (hs : Grounded c s)
    (ha : s.gatewayState a = .evaluateMama) (h : System.Changes (spec c).Step s s') :
    (s'.gatewayState a = .established ∨ s'.gatewayState a = .listen) ∨
      s'.gatewayState a = .evaluateMama ∧ pending c s' < pending c s := by
  have hfinite : Finite Agent := Finite.of_subsingleton
  obtain ⟨⟨i, hnext⟩, hne⟩ := h
  cases i with
  | agentRequestIntent b exp intent =>
    obtain ⟨hexp, rfl⟩ := hnext
    have hclock : 0 ≤ s.clock := hs.clock
    have hpositive : 1 ≤ exp := by omega
    have hnew : ({ agent := b, exp, intent, active := true } : Sat Agent) ∉ s.satRegistry := by
      intro hold
      refine hne ?_
      rw [Set.union_eq_left.2 (Set.singleton_subset_iff.2 hold)]
    have hfewer := ncard_diff_lt (finite_tokens (c := c)) ⟨⟨hpositive, hexp.2⟩, rfl⟩ hnew
    refine Or.inr ⟨ha, ?_⟩
    unfold pending
    dsimp only
    omega
  | agentSendHandshake b nonce intent =>
    obtain ⟨hnonce, -, rfl⟩ := hnext
    have hnew : ({ type := .knk, agent := b, nonce, intent } : Message Agent) ∉ s.messages := by
      intro hold
      refine hne ?_
      rw [Set.union_eq_left.2 (Set.singleton_subset_iff.2 hold)]
    have hfewer := ncard_diff_lt (finite_sendable (c := c)) hnonce hnew
    refine Or.inr ⟨ha, ?_⟩
    unfold pending
    dsimp only
    omega
  | gatewayReceiveKnk m =>
    obtain ⟨-, -, hstate, -⟩ := hnext
    rw [Subsingleton.elim m.agent a, ha] at hstate
    cases hstate
  | gatewayParseSig b m | gatewayVerifySat b m sat =>
    obtain ⟨hstate, -⟩ := hnext
    rw [Subsingleton.elim b a, ha] at hstate
    cases hstate
  | gatewayEvaluateMama b =>
    obtain ⟨-, rfl⟩ := hnext
    obtain rfl := Subsingleton.elim b a
    left
    split
    · exact Or.inl (Function.update_self ..)
    · exact Or.inr (Function.update_self ..)
  | tickClock =>
    obtain ⟨htime, rfl⟩ := hnext
    refine Or.inr ⟨ha, ?_⟩
    unfold pending
    dsimp only
    omega

/-- And the evaluation itself always can be taken. -/
theorem exists_changes_of_evaluateMama (ha : s.gatewayState a = .evaluateMama) :
    ∃ s', System.Changes (spec c).Step s s' := by
  refine ⟨_, ⟨.gatewayEvaluateMama a, ha, rfl⟩, fun heq => ?_⟩
  have hstate := congrArg (fun s => s.gatewayState a) heq
  split at hstate <;> simp [ha] at hstate

theorem terminates_of_subsingleton [Subsingleton Agent] {b : ℕ → State Agent}
    (hb : (spec c).FairBehaviour b) : MAMATerminationLiveness b := by
  intro a
  refine hb.leadsTo_of_rank (pending c) ?_ ?_
  · intro s _ ha
    exact exists_changes_of_evaluateMama ha
  · intro s s' hreach ha hchanges
    exact pending_lt_of_changes (grounded_of_reachable hreach) ha hchanges

/-! ## Two agents -/

/-- A token of an agent's, for the first reading of the clock. -/
def firstToken (a : Agent) : Sat Agent where
  agent := a
  exp := 1
  intent := .beamform
  active := true

/-- An agent's first handshake. -/
def firstHandshake (a : Agent) : Message Agent where
  type := .knk
  agent := a
  nonce := 1
  intent := .beamform

/-- The agent has asked for its token, and its handshake was accepted. -/
def State.accept (s : State Agent) (a : Agent) : State Agent :=
  { s with
    satRegistry := s.satRegistry ∪ {firstToken a}
    messages := s.messages ∪ {firstHandshake a} }.setEntries a .verifySat 1

theorem reachable_accept (h : (spec c).Reachable s) (hnonce : 1 ≤ c.maxNonce)
    (htime : 1 ≤ c.maxTime) (hclock : s.clock = 0) (hstate : s.gatewayState a = .listen)
    (hcounter : s.highestNonce a = 0) : (spec c).Reachable (s.accept a) := by
  have hrequest := h.step (.agentRequestIntent a 1 .beamform)
    ⟨⟨le_of_eq (by rw [hclock]; rfl), htime⟩, rfl⟩
  have hsend := hrequest.step (.agentSendHandshake a 1 .beamform)
    ⟨⟨le_rfl, hnonce⟩, ⟨le_rfl, hnonce⟩, rfl⟩
  have hreceive := hsend.step (.gatewayReceiveKnk (firstHandshake a))
    ⟨Or.inr rfl, rfl, hstate, rfl⟩
  refine hreceive.step (.gatewayParseSig a (firstHandshake a))
    ⟨Function.update_self .., ⟨Or.inr rfl, rfl, rfl⟩, ?_⟩
  rw [if_pos (by simp [hcounter, firstHandshake])]
  simp [State.accept, State.setEntries, firstToken, firstHandshake]

/-- The gateway's state for an agent is set. -/
def State.setGateway (s : State Agent) (a : Agent) (g : GatewayState) : State Agent :=
  { s with gatewayState := Function.update s.gatewayState a g }

/-- The gateway looks at the token of an agent it has accepted, in time or
late. -/
theorem reachable_verify (h : (spec c).Reachable s) (hm : firstHandshake a ∈ s.messages)
    (hsat : firstToken a ∈ s.satRegistry) (hstate : s.gatewayState a = .verifySat) :
    (s.clock < 1 → (spec c).Reachable (s.setGateway a .evaluateMama)) ∧
      (1 ≤ s.clock → (spec c).Reachable (s.setGateway a .listen)) := by
  have hlooks : ∀ s', (s' = if s.clock < (firstToken a).exp then s.setGateway a .evaluateMama
      else s.setGateway a .listen) → (spec c).Reachable s' := fun s' hs' =>
    h.step (.gatewayVerifySat a (firstHandshake a) (firstToken a))
      ⟨hstate, ⟨hm, rfl, rfl⟩, ⟨hsat, rfl, rfl⟩, hs'⟩
  exact ⟨fun hearly => hlooks _ (if_pos hearly).symm,
    fun hlate => hlooks _ (if_neg (not_lt.2 hlate)).symm⟩

/-- A handshake that was accepted is received again, and refused. -/
theorem received_refused (hm : firstHandshake a ∈ s.messages) (hstate : s.gatewayState a = .listen)
    (hcounter : s.highestNonce a = 1) :
    (spec c).Step s (s.setGateway a .parseSig) ∧ (spec c).Step (s.setGateway a .parseSig) s := by
  refine ⟨⟨.gatewayReceiveKnk (firstHandshake a), hm, rfl, hstate, rfl⟩,
    .gatewayParseSig a (firstHandshake a), Function.update_self .., ⟨hm, rfl, rfl⟩, ?_⟩
  have hold : ¬ (s.setGateway a .parseSig).highestNonce a < (firstHandshake a).nonce := by
    simp [State.setGateway, hcounter, firstHandshake]
  rw [if_neg hold]
  simp only [State.setGateway, Function.update_idem]
  rw [← hstate, Function.update_eq_self]

/-- With two agents, the one comes to its evaluation while the other's token
expires, after its handshake was accepted. -/
theorem exists_waiting {a b : Agent} (hab : a ≠ b) (hnonce : 1 ≤ c.maxNonce)
    (htime : 1 ≤ c.maxTime) :
    ∃ s : State Agent, (spec c).Reachable s ∧ s.gatewayState a = .evaluateMama ∧
      firstHandshake b ∈ s.messages ∧ s.gatewayState b = .listen ∧ s.highestNonce b = 1 := by
  have hscore : (0 : ℤ) ≤ 0 ∧ (0 : ℤ) ≤ 100 := by decide
  have hinit : (spec c).Reachable (init fun _ : Agent => 0) :=
    System.Reachable.init ⟨fun _ => 0, fun _ => hscore, rfl⟩
  have hfirst := reachable_accept (a := a) hinit hnonce htime rfl rfl rfl
  have hwaits := (reachable_verify (a := a) hfirst (Or.inr rfl) (Or.inr rfl)
    (Function.update_self ..)).1 Int.zero_lt_one
  -- the second agent is as it was at the start
  have hlisten : (((init fun _ : Agent => 0).accept a).setGateway a
      .evaluateMama).gatewayState b = .listen := by
    simp [State.setGateway, State.accept, State.setEntries, init, Ne.symm hab]
  have hzero : (((init fun _ : Agent => 0).accept a).setGateway a
      .evaluateMama).highestNonce b = 0 := by
    simp [State.setGateway, State.accept, State.setEntries, init, Ne.symm hab]
  have hsecond := reachable_accept (a := b) hwaits hnonce htime rfl hlisten hzero
  have htick := hsecond.step .tickClock ⟨lt_of_lt_of_le Int.zero_lt_one htime, rfl⟩
  have hexpired := (reachable_verify (a := b) htick (Or.inr rfl) (Or.inr rfl)
    (Function.update_self ..)).2 le_rfl
  refine ⟨_, hexpired, ?_, Or.inr rfl, Function.update_self .., Function.update_self ..⟩
  simp [State.setGateway, State.accept, State.setEntries, hab]

/-- **So two agents need not both come to an end**: the one waits, and the
other's handshake is received and refused for ever. -/
theorem exists_fair_waiting {a b : Agent} (hab : a ≠ b) (hnonce : 1 ≤ c.maxNonce)
    (htime : 1 ≤ c.maxTime) :
    ∃ behaviour : ℕ → State Agent, (spec c).FairBehaviour behaviour ∧
      ¬ MAMATerminationLiveness behaviour := by
  obtain ⟨s, hs, hwaits, hm, hstate, hcounter⟩ := exists_waiting hab hnonce htime
  obtain ⟨hto, hback⟩ := received_refused (c := c) hm hstate hcounter
  have hwaits' : (s.setGateway b .parseSig).gatewayState a = .evaluateMama :=
    (Function.update_of_ne hab ..).trans hwaits
  have hne : s ≠ s.setGateway b .parseSig := by
    intro heq
    have hsame := congrArg (fun s => s.gatewayState b) heq
    simp [State.setGateway, hstate] at hsame
  obtain ⟨behaviour, hfair, hfails⟩ := System.exists_fair_not_leadsTo hs hto hback hne
    (P := fun s => s.gatewayState a = .evaluateMama)
    (Q := fun s => s.gatewayState a = .established ∨ s.gatewayState a = .listen) hwaits
    (by rw [hwaits]; decide) (by rw [hwaits']; decide)
  exact ⟨behaviour, hfair, fun h => hfails (h a)⟩

variable (Agent c) in
/-- **When every evaluation comes to its end.** In every fair behaviour an
agent that waits for its evaluation is answered, exactly where there are no
two agents, or no nonce to send, or no expiry to ask for. -/
theorem mamaTermination_iff :
    (∀ b : ℕ → State Agent, (spec c).FairBehaviour b → MAMATerminationLiveness b) ↔
      Subsingleton Agent ∨ c.maxNonce < 1 ∨ c.maxTime < 1 := by
  constructor
  · intro h
    by_contra hbusy
    push Not at hbusy
    obtain ⟨⟨a, b, hab⟩, hnonce, htime⟩ := hbusy
    obtain ⟨behaviour, hfair, hfails⟩ := exists_fair_waiting hab hnonce htime
    exact hfails (h behaviour hfair)
  · rintro (hone | hbound) b hb
    · exact terminates_of_subsingleton hb
    · intro a
      refine hb.1.leadsTo_of_never fun s hs hwaits => ?_
      have hbounds := (grounded_of_reachable hs).verified a (Or.inl hwaits)
      omega

end Formal

end ThreatModel

end NhpSba
