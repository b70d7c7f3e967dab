import NhpSba.ThreatModel.Deterministic
import NhpSba.ThreatModel.MamaTermination
import NhpSba.ThreatModel.Model.TrueFormal
/-!
# Threat model — how long a session's token stays valid

Each model lists an invariant by which the token of a session is valid at
the clock. The gateway looks at it once, and the clock goes on: the
invariant holds exactly where the constants leave no run to the reading at
which the token is over. The formal model's `NoReplayAttack` speaks of two
messages under one nonce, which an agent may send with two intents.
-/

namespace NhpSba

namespace ThreatModel

variable {Agent : Type*} [DecidableEq Agent] {c : Constants}

/-! ## The formal model -/

namespace Formal

variable {i : Action Agent} {s s' : State Agent} {a : Agent}

/-- The scores are the initial ones, and an established agent's was enough. -/
structure Scored (c : Constants) (s : State Agent) : Prop where
  bounds : ∀ a, s.mamaScores a ≤ 100
  enough : ∀ a, s.gatewayState a = .established → c.minSafetyScore ≤ s.mamaScores a

theorem next_mamaScores (h : Next c i s s') : s'.mamaScores = s.mamaScores := by
  cases i with
  | agentRequestIntent _ _ _ | tickClock =>
    obtain ⟨-, rfl⟩ := h
    rfl
  | agentSendHandshake _ _ _ =>
    obtain ⟨-, -, rfl⟩ := h
    rfl
  | gatewayReceiveKnk _ =>
    obtain ⟨-, -, -, rfl⟩ := h
    rfl
  | gatewayVerifySat _ _ _ =>
    obtain ⟨-, -, -, rfl⟩ := h
    split <;> rfl
  | gatewayParseSig _ _ =>
    obtain ⟨-, -, rfl⟩ := h
    split <;> rfl
  | gatewayEvaluateMama _ =>
    obtain ⟨-, rfl⟩ := h
    split <;> rfl

/-- An agent comes to be established by its evaluation, where its score is
enough. -/
theorem next_established (h : Next c i s s') (ha : s'.gatewayState a = .established) :
    s.gatewayState a = .established ∨ c.minSafetyScore ≤ s.mamaScores a := by
  by_cases hmoves : i.moves = some a
  · cases i with
    | gatewayReceiveKnk m =>
      obtain rfl := Option.some.inj hmoves
      obtain ⟨-, -, -, rfl⟩ := h
      simp at ha
    | gatewayParseSig b m =>
      obtain rfl := Option.some.inj hmoves
      obtain ⟨-, -, rfl⟩ := h
      split at ha <;> simp at ha
    | gatewayVerifySat b m sat =>
      obtain rfl := Option.some.inj hmoves
      obtain ⟨-, -, -, rfl⟩ := h
      split at ha <;> simp at ha
    | gatewayEvaluateMama b =>
      obtain rfl := Option.some.inj hmoves
      obtain ⟨-, rfl⟩ := h
      split at ha
      · next henough => exact Or.inr henough
      · simp at ha
    | agentRequestIntent _ _ _ | agentSendHandshake _ _ _ | tickClock => cases hmoves
  · exact Or.inl ((h.frame hmoves).1 ▸ ha)

theorem scored_of_reachable (h : (spec c).Reachable s) : Scored c s := by
  refine h.invariant ?_ ?_
  · rintro s ⟨mamaScores, hbounds, rfl⟩
    exact ⟨fun a => (hbounds a).2, fun a ha => by cases ha⟩
  · intro i s s' hs hnext
    have hsame := next_mamaScores hnext
    refine ⟨hsame ▸ hs.bounds, fun a ha => ?_⟩
    rw [hsame]
    rcases next_established hnext ha with hbefore | henough
    · exact hs.enough a hbefore
    · exact henough

variable (c) in
/-- The agent's handshake is accepted, and its token looked at in time. -/
theorem exists_evaluated (a : Agent) (hnonce : 1 ≤ c.maxNonce) (htime : 1 ≤ c.maxTime) :
    ∃ s : State Agent, (spec c).Reachable s ∧ s.gatewayState a = .evaluateMama ∧ s.clock = 0 ∧
      s.mamaScores a = 100 ∧ firstHandshake a ∈ s.messages ∧
      s.satRegistry = ∅ ∪ {firstToken a} := by
  have hscore : (0 : ℤ) ≤ 100 ∧ (100 : ℤ) ≤ 100 := by decide
  have hinit : (spec c).Reachable (init fun _ : Agent => 100) :=
    System.Reachable.init ⟨fun _ => 100, fun _ => hscore, rfl⟩
  have haccept := reachable_accept (a := a) hinit hnonce htime rfl rfl rfl
  have hverify := (reachable_verify (a := a) haccept (Or.inr rfl) (Or.inr rfl)
    (Function.update_self ..)).1 Int.zero_lt_one
  exact ⟨_, hverify, Function.update_self .., rfl, rfl, Or.inr rfl, rfl⟩

/-- An agent sends a second message under its first nonce, for the other
intent, and is established. -/
theorem exists_established_twice (a : Agent) (hnonce : 1 ≤ c.maxNonce) (htime : 1 ≤ c.maxTime)
    (hscore : c.minSafetyScore ≤ 100) :
    ∃ s : State Agent, (spec c).Reachable s ∧ ¬ NoReplayAttack s := by
  obtain ⟨s, hs, hstate, -, hscores, hm, -⟩ := exists_evaluated c a hnonce htime
  have hsend := hs.step (.agentSendHandshake a 1 .monitor) ⟨⟨le_rfl, hnonce⟩, ⟨le_rfl, hnonce⟩, rfl⟩
  have hevaluate := hsend.step (.gatewayEvaluateMama a)
    ⟨hstate, (if_pos (hscore.trans hscores.ge)).symm⟩
  refine ⟨_, hevaluate, fun hnone => ?_⟩
  refine hnone a (firstHandshake a) (Or.inl hm) _ (Or.inr rfl) ⟨rfl, rfl, rfl, ?_⟩
    (Function.update_self ..)
  intro heq
  cases congrArg Message.intent heq

variable (Agent c) in
/-- **When the formal model's invariants hold.** No two messages under one
nonce stand beside a session exactly where no session comes about; and the
token of an evaluation or a session is valid at the clock exactly where
there is no evaluation. -/
theorem invariants_iff :
    ((∀ s : State Agent, (spec c).Reachable s → NoReplayAttack s) ↔
      IsEmpty Agent ∨ c.maxNonce < 1 ∨ c.maxTime < 1 ∨ 100 < c.minSafetyScore) ∧
    ((∀ s : State Agent, (spec c).Reachable s → SATTemporalBound s) ↔
      IsEmpty Agent ∨ c.maxNonce < 1 ∨ c.maxTime < 1) := by
  refine ⟨⟨fun h => ?_, fun hidle s hs a m₁ _ m₂ _ _ ha => ?_⟩,
    ⟨fun h => ?_, fun hidle s hs a ha => ?_⟩⟩
  · by_contra hbusy
    push Not at hbusy
    obtain ⟨⟨a⟩, hnonce, htime, hscore⟩ := hbusy
    obtain ⟨s, hs, hfails⟩ := exists_established_twice a hnonce htime hscore
    exact hfails (h s hs)
  · have hbounds := (grounded_of_reachable hs).verified a (Or.inr ha)
    have hscored := scored_of_reachable hs
    have hscore := (hscored.enough a ha).trans (hscored.bounds a)
    rcases hidle with hempty | hidle
    · exact hempty.elim a
    · omega
  · by_contra hbusy
    push Not at hbusy
    obtain ⟨⟨a⟩, hnonce, htime⟩ := hbusy
    obtain ⟨s, hs, hstate, hclock, -, -, hregistry⟩ := exists_evaluated c a hnonce htime
    have htick := hs.step .tickClock ⟨by omega, rfl⟩
    obtain ⟨sat, hsat, -, hvalid⟩ := h _ htick a (Or.inl hstate)
    -- the one token is over
    rw [hregistry] at hsat
    obtain rfl : sat = firstToken a := by simpa using hsat
    simp [hclock, firstToken] at hvalid
  · have hbounds := (grounded_of_reachable hs).verified a ha
    rcases hidle with hempty | hidle
    · exact hempty.elim a
    · omega

end Formal

/-! ## What the shared actions keep -/

section Common

variable {Sat : Type*} {action : CommonAction Agent} {s s' : Vars Agent Sat}

omit [DecidableEq Agent] in
/-- The clock and the nonces are within the bounds. -/
structure Vars.InBounds (c : Constants) (s : Vars Agent Sat) : Prop where
  clock : 0 ≤ s.clock
  ticked : s.clock = 0 ∨ s.clock ≤ c.maxTime
  nonces : ∀ m ∈ s.network, 1 ≤ m.nonce ∧ m.nonce ≤ c.maxNonce

omit [DecidableEq Agent] in
theorem Vars.InBounds.init : (init : Vars Agent Sat).InBounds c :=
  ⟨le_rfl, Or.inl rfl, fun _ hm => hm.elim⟩

theorem CommonAction.inBounds (hs : s.InBounds c) (h : action.Next c s s') : s'.InBounds c := by
  cases action with
  | sendHandshake a nonce =>
    obtain ⟨hnonce, -, rfl⟩ := h
    refine ⟨hs.clock, hs.ticked, ?_⟩
    rintro m (hm | rfl)
    · exact hs.nonces m hm
    · exact hnonce
  | maliciousReplay m =>
    obtain ⟨hm, rfl⟩ := h
    refine ⟨hs.clock, hs.ticked, ?_⟩
    rintro m' (hm' | rfl)
    · exact hs.nonces m' hm'
    · exact hs.nonces _ hm
  | togglePartition =>
    obtain rfl := h
    exact ⟨hs.clock, hs.ticked, hs.nonces⟩
  | compromiseServer | compromiseAc | undefinedBehaviorHandling a =>
    obtain ⟨-, rfl⟩ := h
    exact ⟨hs.clock, hs.ticked, hs.nonces⟩
  | tick =>
    obtain ⟨htime, rfl⟩ := h
    exact ⟨le_trans hs.clock (Int.le_add_one le_rfl), Or.inr htime, hs.nonces⟩

theorem CommonAction.satRegistry_eq (h : action.Next c s s') : s'.satRegistry = s.satRegistry := by
  cases action with
  | sendHandshake a nonce =>
    obtain ⟨-, -, rfl⟩ := h
    rfl
  | togglePartition =>
    obtain rfl := h
    rfl
  | maliciousReplay _ | compromiseServer | compromiseAc | undefinedBehaviorHandling _ | tick =>
    obtain ⟨-, rfl⟩ := h
    rfl

end Common

/-! ## The Deterministic model -/

namespace Deterministic

variable {i : Action Agent} {s s' : State Agent} {a : Agent}

/-- Beside the bounds, a token is issued before its expiry, and an
established agent was let in by a message and a token. -/
structure Grounded (c : Constants) (s : State Agent) : Prop where
  bounds : s.InBounds c
  tokens : ∀ sat ∈ s.satRegistry, 0 ≤ sat.iat ∧ sat.iat < sat.exp ∧ sat.exp ≤ c.maxTime
  letIn : ∀ a, s.state a = .established →
    (∃ m ∈ s.network, m.agent = a) ∧ ∃ sat ∈ s.satRegistry, sat.agent = a

theorem next_letIn (hs : Grounded c s) (h : Next c i s s') (a : Agent)
    (ha : s'.state a = .established) :
    (∃ m ∈ s'.network, m.agent = a) ∧ ∃ sat ∈ s'.satRegistry, sat.agent = a := by
  have hlater := h.later
  rcases next_cases h a with ⟨m, sat, score, -, hentry, -⟩ | ⟨hstate, -⟩
  · obtain ⟨-, -, ⟨hm, hagent, -⟩, ⟨hsat, hsatAgent⟩, -⟩ := hentry
    exact ⟨⟨m, hlater.network hm, hagent⟩, sat, hlater.satRegistry hsat, hsatAgent⟩
  · have hbefore : s.state a = .established := by
      rcases hstate with hkept | hlisten
      · exact hkept ▸ ha
      · rw [hlisten] at ha
        cases ha
    obtain ⟨⟨m, hm, hagent⟩, sat, hsat, hsatAgent⟩ := hs.letIn a hbefore
    exact ⟨⟨m, hlater.network hm, hagent⟩, sat, hlater.satRegistry hsat, hsatAgent⟩

theorem Grounded.step (hs : Grounded c s) (h : Next c i s s') : Grounded c s' := by
  have hletIn := next_letIn hs h
  cases i with
  | requestSat a iat exp =>
    obtain ⟨hiat, hexp, -, rfl⟩ := h
    refine ⟨⟨hs.bounds.clock, hs.bounds.ticked, hs.bounds.nonces⟩, ?_, hletIn⟩
    rintro sat (hsat | rfl)
    · exact hs.tokens sat hsat
    · exact ⟨hiat.1, lt_of_le_of_lt hiat.2 hexp.1, hexp.2⟩
  | common action =>
    refine ⟨CommonAction.inBounds hs.bounds h, ?_, hletIn⟩
    rw [CommonAction.satRegistry_eq h]
    exact hs.tokens
  | atomicVerifyAndEvaluate a m sat score =>
    obtain ⟨-, rfl⟩ := h
    split
    · next hguard =>
      rw [if_pos hguard] at hletIn
      exact ⟨⟨hs.bounds.clock, hs.bounds.ticked, hs.bounds.nonces⟩, hs.tokens, hletIn⟩
    · next hguard =>
      rw [if_neg hguard] at hletIn
      exact ⟨⟨hs.bounds.clock, hs.bounds.ticked, hs.bounds.nonces⟩, hs.tokens, hletIn⟩

theorem grounded_of_reachable (h : (spec c).Reachable s) : Grounded c s := by
  refine h.invariant ?_ ?_
  · rintro s rfl
    exact ⟨Vars.InBounds.init, fun sat hsat => hsat.elim, fun a ha => by cases ha⟩
  · intro i s s' hs hnext
    exact hs.step hnext

variable (c) in
/-- The agent's token is for the first two readings of the clock, a
compromised policy engine lets it in, and the clock goes on to the third. -/
theorem exists_outlived (a : Agent) (hnonce : 1 ≤ c.maxNonce) (htime : 2 ≤ c.maxTime) :
    ∃ s : State Agent, (spec c).Reachable s ∧ ¬ SATValidityInvariant s := by
  let sat : Sat Agent := { agent := a, iat := 0, exp := 1, active := true }
  let m : Message Agent := { type := .knk, agent := a, nonce := 1 }
  have hinit : (spec c).Reachable (Vars.init : State Agent) := System.Reachable.init rfl
  have hrequest := hinit.step (.requestSat a 0 1)
    ⟨⟨le_rfl, le_rfl⟩, ⟨le_rfl, by omega⟩, Int.zero_le_ofNat 1, rfl⟩
  have hsend := hrequest.step (.common (.sendHandshake a 1))
    ⟨⟨le_rfl, hnonce⟩, ⟨le_rfl, hnonce⟩, rfl⟩
  have hcompromise := hsend.step (.common .compromiseAc) ⟨rfl, rfl⟩
  have henter := hcompromise.step (.atomicVerifyAndEvaluate a m sat 0)
    ⟨⟨rfl, Or.inl rfl, ⟨Or.inr rfl, rfl, rfl⟩, ⟨Or.inr rfl, rfl⟩, by decide⟩,
      (if_pos ⟨Or.inl Int.zero_lt_one, Or.inl ⟨le_rfl, Int.zero_le_ofNat 1⟩,
        Or.inr (Or.inl rfl)⟩).symm⟩
  have htick := henter.step (.common .tick) ⟨(show (0 : ℤ) < c.maxTime by omega), rfl⟩
  have hlate := htick.step (.common .tick) ⟨(show (0 : ℤ) + 1 < c.maxTime by omega), rfl⟩
  refine ⟨_, hlate, fun hvalid => ?_⟩
  obtain ⟨sat', hsat, -, -, hexp⟩ := hvalid rfl a (Function.update_self ..)
  -- the one token is over
  obtain rfl : sat' = sat := by simpa [Vars.init, sat] using hsat
  exact absurd (show (0 : ℤ) + 1 + 1 ≤ 1 from hexp) (by decide)

variable (Agent c) in
/-- **When the clock stays within a session's token**, while the server is
honest: exactly where there is no agent, no nonce to send, or no second
tick of the clock. -/
theorem satValidity_iff :
    (∀ s : State Agent, (spec c).Reachable s → SATValidityInvariant s) ↔
      IsEmpty Agent ∨ c.maxNonce < 1 ∨ c.maxTime < 2 := by
  constructor
  · intro h
    by_contra hbusy
    push Not at hbusy
    obtain ⟨⟨a⟩, hnonce, htime⟩ := hbusy
    obtain ⟨s, hs, hfails⟩ := exists_outlived c a hnonce htime
    exact hfails (h s hs)
  · intro hidle s hs _ a ha
    have hgrounded := grounded_of_reachable hs
    obtain ⟨⟨m, hm, -⟩, sat, hsat, hagent⟩ := hgrounded.letIn a ha
    have hnonce := hgrounded.bounds.nonces m hm
    have htoken := hgrounded.tokens sat hsat
    have hclock := hgrounded.bounds.clock
    have hticked := hgrounded.bounds.ticked
    rcases hidle with hempty | hbound | hbound
    · exact hempty.elim a
    · omega
    · exact ⟨sat, hsat, hagent, by omega, by omega⟩

end Deterministic

/-! ## The True model -/

namespace TrueFormal

variable {i : Action Agent} {s s' : State Agent} {a : Agent}

instance : Gateway (State Agent) Agent where
  gatewayState := Vars.state
  highestNonce := Vars.highestNonce
  HasMessage s a n := ∃ m ∈ s.network, m.agent = a ∧ m.nonce = n
  HasToken s exp := ∃ sat ∈ s.satRegistry, sat.exp = exp
  clock := Vars.clock

/-- The clock is within the bounds too. -/
structure Grounded (c : Constants) (s : State Agent) : Prop extends ThreatModel.Grounded c s where
  ticked : s.clock = 0 ∨ s.clock ≤ c.maxTime

omit [DecidableEq Agent] in
theorem Grounded.bounds (hs : Grounded c s) : s.InBounds c :=
  ⟨hs.clock, hs.ticked, fun m hm => hs.nonces ⟨m, hm, rfl, rfl⟩⟩

/-- The gateway sets the state of an agent, and maybe its counter. -/
theorem Grounded.set (hs : Grounded c s) {g : GatewayState} (highestNonce : Agent → ℤ)
    (hg : Verified g → 1 ≤ c.maxNonce ∧ 1 ≤ c.maxTime) :
    Grounded c { s with state := Function.update s.state a g, highestNonce } where
  toGrounded := hs.moved rfl rfl rfl (verified_update hs.verified hg)
  ticked := hs.ticked

theorem Grounded.setUnverified (hs : Grounded c s) {g : GatewayState} (highestNonce : Agent → ℤ)
    (hg : ¬ Verified g) : Grounded c { s with state := Function.update s.state a g, highestNonce } :=
  hs.set highestNonce fun h => absurd h hg

theorem Grounded.step (hs : Grounded c s) (h : Next c i s s') : Grounded c s' := by
  cases i with
  | requestSat a exp =>
    obtain ⟨hexp, rfl⟩ := h
    have hclock : 0 ≤ s.clock := hs.clock
    have hpositive : 1 ≤ exp := by omega
    refine ⟨hs.next le_rfl (fun a n => Or.inl) ?_ hs.verified, hs.ticked⟩
    rintro _ ⟨sat, hsat | rfl, rfl⟩
    · exact Or.inl ⟨sat, hsat, rfl⟩
    · exact Or.inr ⟨hpositive, hexp.2⟩
  | common action =>
    have hbounds := CommonAction.inBounds hs.bounds h
    refine ⟨⟨hbounds.clock, ?_, ?_, fun a (ha : Verified (s'.state a)) => ?_⟩, hbounds.ticked⟩
    · rintro a n ⟨m, hm, -, rfl⟩
      exact hbounds.nonces m hm
    · rintro exp ⟨sat, hsat, rfl⟩
      rw [CommonAction.satRegistry_eq h] at hsat
      exact hs.exps ⟨sat, hsat, rfl⟩
    · rcases (CommonAction.agent_cases h a).1 with hkept | hlisten
      · rw [hkept] at ha
        exact hs.verified a ha
      · rw [hlisten] at ha
        rcases ha with ha | ha <;> cases ha
  | receiveKnk m =>
    obtain ⟨-, -, -, rfl⟩ := h
    exact hs.setUnverified _ (by simp [Verified])
  | parseSig a m =>
    obtain ⟨-, -, -, rfl⟩ := h
    split
    · exact hs.setUnverified _ (by simp [Verified])
    · exact hs.setUnverified _ (by simp [Verified])
  | verifySat a m sat =>
    obtain ⟨-, -, ⟨hm, -⟩, ⟨hsat, -⟩, rfl⟩ := h
    have hnonce := hs.nonces ⟨m, hm, rfl, rfl⟩
    have hexp := hs.exps ⟨sat, hsat, rfl⟩
    split
    · exact hs.set _ fun _ => ⟨by omega, by omega⟩
    · exact hs.setUnverified _ (by simp [Verified])
  | evaluateMama a score =>
    obtain ⟨-, hstate, -, rfl⟩ := h
    split
    · exact hs.set _ fun _ => hs.verified a (Or.inl hstate)
    · exact hs.setUnverified _ (by simp [Verified])

theorem grounded_of_reachable (h : (spec c).Reachable s) : Grounded c s := by
  refine h.invariant ?_ ?_
  · rintro s rfl
    refine ⟨⟨le_rfl, fun ⟨_, hm, _⟩ => hm.elim, fun ⟨_, hsat, _⟩ => hsat.elim, fun a ha => ?_⟩,
      Or.inl rfl⟩
    rcases ha with ha | ha <;> cases ha
  · intro i s s' hs hnext
    exact hs.step hnext

variable (c) in
/-- The agent waits for its evaluation as the clock comes to its token's
expiry. -/
theorem exists_outlived (a : Agent) (hnonce : 1 ≤ c.maxNonce) (htime : 1 ≤ c.maxTime) :
    ∃ s : State Agent, (spec c).Reachable s ∧ ¬ SATBound s := by
  let sat : Sat Agent := { agent := a, exp := 1, active := true }
  let m : Message Agent := { type := .knk, agent := a, nonce := 1 }
  have hinit : (spec c).Reachable (Vars.init : State Agent) := System.Reachable.init rfl
  have hrequest := hinit.step (.requestSat a 1) ⟨⟨le_rfl, htime⟩, rfl⟩
  have hsend := hrequest.step (.common (.sendHandshake a 1))
    ⟨⟨le_rfl, hnonce⟩, ⟨le_rfl, hnonce⟩, rfl⟩
  have hreceive := hsend.step (.receiveKnk m) ⟨rfl, Or.inr rfl, Or.inl rfl, rfl⟩
  have hparse := hreceive.step (.parseSig a m)
    ⟨rfl, Function.update_self .., ⟨Or.inr rfl, rfl⟩, (if_pos (Or.inl Int.zero_lt_one)).symm⟩
  have hverify := hparse.step (.verifySat a m sat)
    ⟨rfl, Function.update_self .., ⟨Or.inr rfl, rfl⟩, ⟨Or.inr rfl, rfl⟩,
      (if_pos (Or.inl Int.zero_lt_one)).symm⟩
  have htick := hverify.step (.common .tick) ⟨(show (0 : ℤ) < c.maxTime by omega), rfl⟩
  refine ⟨_, htick, fun hvalid => ?_⟩
  obtain ⟨sat', hsat, -, hexp⟩ := hvalid rfl a (Or.inr (Function.update_self ..))
  -- the one token is over
  obtain rfl : sat' = sat := by simpa [Vars.init, sat] using hsat
  exact absurd (show (0 : ℤ) + 1 < 1 from hexp) (by decide)

variable (Agent c) in
/-- **When the clock stays short of a session's token**, while the server
is honest: exactly where no agent comes to its evaluation. -/
theorem satBound_iff :
    (∀ s : State Agent, (spec c).Reachable s → SATBound s) ↔
      IsEmpty Agent ∨ c.maxNonce < 1 ∨ c.maxTime < 1 := by
  constructor
  · intro h
    by_contra hbusy
    push Not at hbusy
    obtain ⟨⟨a⟩, hnonce, htime⟩ := hbusy
    obtain ⟨s, hs, hfails⟩ := exists_outlived c a hnonce htime
    exact hfails (h s hs)
  · intro hidle s hs _ a ha
    have hbounds := (grounded_of_reachable hs).verified a (Or.symm ha)
    rcases hidle with hempty | hidle
    · exact hempty.elim a
    · omega

end TrueFormal

end ThreatModel

end NhpSba
