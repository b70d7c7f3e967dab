import NhpSba.ThreatModel.IntentBinding
import NhpSba.ThreatModel.Model.Adversarial
/-!
# Threat model — what the adversarial model's specification promises

Each property listed holds only where the constants leave nothing to
happen: a corrupted handshake may be received again for ever, which is fair
to the system as a whole (`liveness_iff`), and a session that an original
message established stands under a nonce that a replay of it carries too
(`noReplayAttack_iff`). What replays cannot do is to be admitted: the nonces
admitted for an agent increase, and each is one that the agent sent before
(`admissions_agree`).
-/

namespace NhpSba

namespace ThreatModel

namespace Adversarial

open Formal (Intent Sat)

variable {Agent : Type*} [DecidableEq Agent] {c : Constants} {i : Action Agent} {a : Agent}
  {s s' : State Agent} {m : Message Agent} {g : GatewayState}

theorem gatewayState_setGateway : (s.setGateway a g).gatewayState a = g :=
  Function.update_self ..

theorem gatewayState_setGateway_of_ne {b : Agent} (h : b ≠ a) :
    (s.setGateway a g).gatewayState b = s.gatewayState b :=
  Function.update_of_ne h ..

theorem setGateway_self (h : s.gatewayState a = g) : s.setGateway a g = s := by
  subst h
  rw [State.setGateway, Function.update_eq_self]

theorem setGateway_setGateway (g' : GatewayState) :
    (s.setGateway a g).setGateway a g' = s.setGateway a g' := by
  simp only [State.setGateway, Function.update_idem]

instance : Gateway (State Agent) Agent where
  gatewayState := State.gatewayState
  highestNonce := State.highestNonce
  HasMessage s a n := ∃ m ∈ s.messages, m.agent = a ∧ m.nonce = n
  HasToken s exp := ∃ sat ∈ s.satRegistry, sat.exp = exp
  clock := State.clock

/-! ## What the constants leave to happen -/

/-- An agent is under way only where there is a nonce to send. -/
structure Grounded (c : Constants) (s : State Agent) : Prop extends ThreatModel.Grounded c s where
  underWay : ∀ a, s.gatewayState a ≠ .listen → 1 ≤ c.maxNonce

omit [DecidableEq Agent] in
theorem Grounded.init : Grounded c (init : State Agent) where
  clock := le_rfl
  nonces := fun ⟨_, hm, _⟩ => hm.elim
  exps := fun ⟨_, hsat, _⟩ => hsat.elim
  verified := fun a ha => by rcases ha with ha | ha <;> cases ha
  underWay := fun a ha => absurd rfl ha

omit [DecidableEq Agent] in
theorem Grounded.send (hs : Grounded c s) (hm : 1 ≤ m.nonce ∧ m.nonce ≤ c.maxNonce) :
    Grounded c { s with messages := s.messages ∪ {m} } where
  toGrounded := by
    refine hs.next le_rfl ?_ (fun exp => Or.inl) hs.verified
    rintro a n ⟨m', hm' | rfl, hagent, rfl⟩
    · exact Or.inl ⟨m', hm', hagent, rfl⟩
    · exact Or.inr hm
  underWay := hs.underWay

theorem Grounded.setGateway (hs : Grounded c s) (hunderWay : g ≠ .listen → 1 ≤ c.maxNonce)
    (hverified : Verified g → 1 ≤ c.maxTime) : Grounded c (s.setGateway a g) where
  toGrounded := by
    refine hs.moved rfl rfl rfl (verified_update hs.verified fun hg => ⟨hunderWay ?_, hverified hg⟩)
    rcases hg with rfl | rfl <;> decide
  underWay := fun b hb => by
    by_cases hab : b = a
    · subst hab
      exact hunderWay (by rwa [gatewayState_setGateway] at hb)
    · exact hs.underWay b (by rwa [gatewayState_setGateway_of_ne hab] at hb)

theorem Grounded.toListen (hs : Grounded c s) : Grounded c (s.setGateway a .listen) :=
  hs.setGateway (fun h => absurd rfl h) (fun h => by rcases h with h | h <;> cases h)

/-- A state that comes before the token is looked at. -/
theorem Grounded.toUnverified (hs : Grounded c s) (hnonce : 1 ≤ c.maxNonce) (hg : ¬ Verified g) :
    Grounded c (s.setGateway a g) :=
  hs.setGateway (fun _ => hnonce) (fun h => absurd h hg)

theorem Grounded.step (hs : Grounded c s) (h : Next c i s s') : Grounded c s' := by
  have hnonces : ∀ m ∈ s.messages, 1 ≤ m.nonce ∧ m.nonce ≤ c.maxNonce := fun m hm =>
    hs.nonces ⟨m, hm, rfl, rfl⟩
  have hmaxNonce : ∀ m ∈ s.messages, 1 ≤ c.maxNonce := fun m hm =>
    le_trans (hnonces m hm).1 (hnonces m hm).2
  cases i with
  | agentRequestIntent a exp intent =>
    obtain ⟨hexp, rfl⟩ := h
    have hclock : 0 ≤ s.clock := hs.clock
    have hpositive : 1 ≤ exp := by omega
    refine ⟨hs.next le_rfl (fun a n => Or.inl) ?_ hs.verified, hs.underWay⟩
    rintro _ ⟨sat, hsat | rfl, rfl⟩
    · exact Or.inl ⟨sat, hsat, rfl⟩
    · exact Or.inr ⟨hpositive, hexp.2⟩
  | agentSendHandshake a nonce intent =>
    obtain ⟨hnonce, -, rfl⟩ := h
    exact hs.send hnonce
  | maliciousReplay a m =>
    obtain ⟨hm, rfl⟩ := h
    exact hs.send (hnonces m hm)
  | stateCorruption a =>
    obtain ⟨hstate, rfl⟩ := h
    refine hs.toUnverified (hs.underWay a ?_) (by simp [Verified])
    rcases hstate with hstate | hstate <;> rw [hstate] <;> decide
  | byzantineTrigger =>
    obtain ⟨-, rfl⟩ := h
    exact ⟨hs.moved rfl rfl rfl hs.verified, hs.underWay⟩
  | gatewayReceiveKnk m =>
    obtain ⟨hm, -, -, rfl⟩ := h
    exact hs.toUnverified (hmaxNonce m hm) (by simp [Verified])
  | gatewayParseSig a m =>
    obtain ⟨-, ⟨hm, -⟩, rfl⟩ := h
    have hcounted : Grounded c
        { s with highestNonce := Function.update s.highestNonce a m.nonce } :=
      ⟨hs.moved rfl rfl rfl hs.verified, hs.underWay⟩
    split
    · exact hcounted.toUnverified (hmaxNonce m hm) (by simp [Verified])
    · exact hs.toListen
  | gatewayVerifySat a m sat =>
    obtain ⟨-, ⟨hm, -⟩, ⟨hsat, -⟩, rfl⟩ := h
    have hexp := hs.exps ⟨sat, hsat, rfl⟩
    split
    · exact hs.setGateway (fun _ => hmaxNonce m hm) (fun _ => le_trans hexp.1 hexp.2)
    · exact hs.toListen
  | gatewayEvaluateMama a score =>
    obtain ⟨hstate, -, rfl⟩ := h
    split
    · exact hs.setGateway (fun _ => hs.underWay a (by rw [hstate]; decide))
        (fun _ => (hs.verified a (Or.inl hstate)).2)
    · exact hs.toListen
  | gatewayRecoverCorruption a =>
    obtain ⟨-, rfl⟩ := h
    exact hs.toListen
  | tickClock =>
    obtain ⟨-, rfl⟩ := h
    have hclock : s.clock ≤ s.clock + 1 := Int.le_add_one le_rfl
    exact ⟨hs.next hclock (fun a n => Or.inl) (fun exp => Or.inl) hs.verified, hs.underWay⟩

theorem grounded_of_reachable (h : (spec c).Reachable s) : Grounded c s := by
  refine h.invariant ?_ ?_
  · rintro s rfl
    exact Grounded.init
  · intro i s s' hs hnext
    exact hs.step hnext

/-! ## A handshake of an agent -/

/-- An agent's first handshake, or a replay of it. -/
def handshake (a : Agent) (isReplay : Bool) : Message Agent where
  type := .knk
  agent := a
  nonce := 1
  intent := .beamform
  isReplay := isReplay

/-- The agent has sent its handshake, and the gateway received it. -/
def received (a : Agent) : State Agent :=
  { init with messages := ∅ ∪ {handshake a false} }.setGateway a .parseSig

theorem reachable_received (a : Agent) (h : 1 ≤ c.maxNonce) :
    (spec c).Reachable (received a) := by
  have hinit : (spec c).Reachable (init : State Agent) := System.Reachable.init rfl
  have hsend := hinit.step (.agentSendHandshake a 1 .beamform) ⟨⟨le_rfl, h⟩, ⟨le_rfl, h⟩, rfl⟩
  exact hsend.step (.gatewayReceiveKnk (handshake a false)) ⟨Or.inr rfl, rfl, Or.inl rfl, rfl⟩

/-- A handshake that is corrupted is received again: the one state leads to
the other. -/
theorem received_corrupted (a : Agent) :
    (spec c).Step (received a) ((received a).setGateway a .corrupted) ∧
      (spec c).Step ((received a).setGateway a .corrupted) (received a) := by
  have hstate : (received a).gatewayState a = .parseSig := gatewayState_setGateway
  have hcorrupted : ((received a).setGateway a .corrupted).gatewayState a = .corrupted :=
    gatewayState_setGateway
  refine ⟨⟨.stateCorruption a, Or.inl hstate, rfl⟩, .gatewayReceiveKnk (handshake a false),
    Or.inr rfl, rfl, Or.inr hcorrupted, ?_⟩
  exact ((setGateway_setGateway _).trans (setGateway_self hstate)).symm

/-! ## Liveness -/

/-- Without an agent, or without a nonce to send, every agent stays in
LISTEN. -/
theorem listen_of_idle (hidle : IsEmpty Agent ∨ c.maxNonce < 1) (h : (spec c).Reachable s)
    (a : Agent) : s.gatewayState a = .listen := by
  by_contra hstate
  have hnonce := (grounded_of_reachable h).underWay a hstate
  rcases hidle with hempty | hbound
  · exact hempty.elim a
  · omega

/-- Where an agent can send, a property that speaks of an agent under way,
and asks for a state the two above are not in, fails. -/
theorem idle_of_leadsTo {P Q : GatewayState → Prop} (hcorrupted : P .corrupted)
    (hQ : ¬ Q .corrupted) (hQ' : ¬ Q .parseSig)
    (h : ∀ b, (spec c).FairBehaviour b → ∀ a : Agent,
      System.LeadsTo (fun s => P (s.gatewayState a)) (fun s => Q (s.gatewayState a)) b) :
    IsEmpty Agent ∨ c.maxNonce < 1 := by
  by_contra hbusy
  push Not at hbusy
  obtain ⟨⟨a⟩, hnonce⟩ := hbusy
  have hparse : (received a).gatewayState a = .parseSig := gatewayState_setGateway
  have hcorrupt : ((received a).setGateway a .corrupted).gatewayState a = .corrupted :=
    gatewayState_setGateway
  obtain ⟨hto, hback⟩ := received_corrupted (c := c) a
  have hne : (received a).setGateway a .corrupted ≠ received a := by
    intro heq
    have := congrArg (fun s => s.gatewayState a) heq
    simp only [hparse, hcorrupt] at this
    cases this
  have hreach := (reachable_received a hnonce).step _ hto.choose_spec
  obtain ⟨b, hb, hfails⟩ := System.exists_fair_not_leadsTo hreach hback hto hne
    (P := fun s => P (s.gatewayState a)) (Q := fun s => Q (s.gatewayState a))
    (by rw [hcorrupt]; exact hcorrupted) (by rw [hcorrupt]; exact hQ) (by rw [hparse]; exact hQ')
  exact hfails (h b hb a)

variable (Agent c) in
/-- **When the liveness properties hold.** Corrupted handshakes are
recovered from in every fair behaviour, and agents under way come to an end
in every one, exactly where there is no agent or no nonce to send. -/
theorem liveness_iff :
    ((∀ b : ℕ → State Agent, (spec c).FairBehaviour b → CorruptionRecovery b) ↔
      IsEmpty Agent ∨ c.maxNonce < 1) ∧
    ((∀ b : ℕ → State Agent, (spec c).FairBehaviour b → DeadlockFree b) ↔
      IsEmpty Agent ∨ c.maxNonce < 1) := by
  refine ⟨⟨fun h => ?_, fun hidle b hb a => ?_⟩, ⟨fun h => ?_, fun hidle b hb a => ?_⟩⟩
  · exact idle_of_leadsTo (P := fun g => g = .corrupted) (Q := fun g => g = .listen) rfl
      (by decide) (by decide) h
  · refine hb.1.leadsTo_of_never fun s hs hcorrupted => ?_
    rw [listen_of_idle hidle hs a] at hcorrupted
    cases hcorrupted
  · exact idle_of_leadsTo
      (P := fun g => g = .parseSig ∨ g = .verifySat ∨ g = .evaluateMama ∨ g = .corrupted)
      (Q := fun g => g = .established ∨ g = .listen) (by decide) (by decide) (by decide) h
  · intro n _
    exact ⟨n, le_rfl, Or.inr (listen_of_idle hidle (hb.1.reachable n) a)⟩

/-! ## Replays -/

/-- The agent's token. -/
def token (a : Agent) : Sat Agent where
  agent := a
  exp := 1
  intent := .beamform
  active := true

variable (c) in
/-- The agent's handshake is replayed before a byzantine policy engine
establishes its session. -/
theorem exists_replayed (a : Agent) (hnonce : 1 ≤ c.maxNonce) (htime : 1 ≤ c.maxTime) :
    ∃ s, (spec c).Reachable s ∧ s.gatewayState a = .established ∧ s.highestNonce a = 1 ∧
      handshake a true ∈ s.messages := by
  have hrequest := (reachable_received a hnonce).step (.agentRequestIntent a 1 .beamform)
    ⟨⟨le_rfl, htime⟩, rfl⟩
  have hreplay := hrequest.step (.maliciousReplay a (handshake a false)) ⟨Or.inr rfl, rfl⟩
  have hparse := hreplay.step (.gatewayParseSig a (handshake a false))
    ⟨gatewayState_setGateway, ⟨Or.inl (Or.inr rfl), rfl⟩, (if_pos Int.zero_lt_one).symm⟩
  have hverify := hparse.step (.gatewayVerifySat a (handshake a false) (token a))
    ⟨gatewayState_setGateway, ⟨Or.inl (Or.inr rfl), rfl⟩, ⟨Or.inr rfl, rfl, rfl⟩,
      (if_pos Int.zero_lt_one).symm⟩
  have hbyzantine := hverify.step .byzantineTrigger ⟨rfl, rfl⟩
  have hevaluate := hbyzantine.step (.gatewayEvaluateMama a 0)
    ⟨gatewayState_setGateway, ⟨le_rfl, by decide⟩, (if_pos (Or.inl rfl)).symm⟩
  exact ⟨_, hevaluate, gatewayState_setGateway, Function.update_self .., Or.inr rfl⟩

variable (Agent c) in
/-- **When no session stands under a replayed nonce**: exactly where there
is no agent, no nonce to send or no expiry to ask for. -/
theorem noReplayAttack_iff :
    (∀ s : State Agent, (spec c).Reachable s → NoReplayAttack s) ↔
      IsEmpty Agent ∨ c.maxNonce < 1 ∨ c.maxTime < 1 := by
  constructor
  · intro h
    by_contra hbusy
    push Not at hbusy
    obtain ⟨⟨a⟩, hnonce, htime⟩ := hbusy
    obtain ⟨s, hs, hstate, hcounter, hmem⟩ := exists_replayed c a hnonce htime
    exact h s hs a (handshake a true) hmem ⟨rfl, rfl⟩ ⟨hstate, hcounter⟩
  · intro hidle s hs a m hm _ hestablished
    have hgrounded := grounded_of_reachable hs
    have hnonce := hgrounded.underWay a (by rw [hestablished.1]; decide)
    have htime := (hgrounded.verified a (Or.inr hestablished.1)).2
    rcases hidle with hempty | hbound | hbound
    · exact hempty.elim a
    · omega
    · omega

/-! ## Admissions -/

/-- The agent sends a handshake under the nonce. -/
def Sends (a : Agent) (n : ℤ) (t : State Agent × Action Agent × State Agent) : Prop :=
  ∃ intent, t.2.1 = .agentSendHandshake a n intent

/-- A step leaves an agent alone or admits a message of its own. -/
theorem next_agent (h : Next c i s s') (a : Agent) : ActsOn a s s' := by
  cases i with
  | agentRequestIntent b exp intent =>
    obtain ⟨-, rfl⟩ := h
    exact Or.inr ⟨rfl, id⟩
  | agentSendHandshake b nonce intent =>
    obtain ⟨-, -, rfl⟩ := h
    exact Or.inr ⟨rfl, id⟩
  | maliciousReplay b m | byzantineTrigger | tickClock =>
    obtain ⟨-, rfl⟩ := h
    exact Or.inr ⟨rfl, id⟩
  | stateCorruption b | gatewayRecoverCorruption b =>
    obtain ⟨-, rfl⟩ := h
    exact Or.inr ⟨rfl, verifySat_of_update (by decide)⟩
  | gatewayReceiveKnk m =>
    obtain ⟨-, -, -, rfl⟩ := h
    exact Or.inr ⟨rfl, verifySat_of_update (by decide)⟩
  | gatewayParseSig b m =>
    obtain ⟨-, ⟨hm, hagent⟩, rfl⟩ := h
    split
    · next hnew =>
      -- the message is of this agent, or moves another
      by_cases hab : a = b
      · subst hab
        exact Or.inl ⟨_, ⟨m, hm, hagent, rfl⟩, hnew, Function.update_self ..⟩
      · refine Or.inr ⟨Function.update_of_ne hab .., fun hafter => ?_⟩
        exact (Function.update_of_ne hab ..).symm.trans hafter
    · exact Or.inr ⟨rfl, verifySat_of_update (by decide)⟩
  | gatewayVerifySat b m sat =>
    obtain ⟨-, -, -, rfl⟩ := h
    split <;> exact Or.inr ⟨rfl, verifySat_of_update (by decide)⟩
  | gatewayEvaluateMama b score =>
    obtain ⟨-, -, rfl⟩ := h
    split <;> exact Or.inr ⟨rfl, verifySat_of_update (by decide)⟩

/-- What a step puts in transit is sent by its agent, or repeats what is in
transit. -/
theorem next_messages (h : Next c i s s') (hm : m ∈ s'.messages) :
    (∃ m' ∈ s.messages, m'.agent = m.agent ∧ m'.nonce = m.nonce) ∨
      Sends m.agent m.nonce (s, i, s') := by
  have hold : ∀ s' : State Agent, s'.messages = s.messages → m ∈ s'.messages →
      ∃ m' ∈ s.messages, m'.agent = m.agent ∧ m'.nonce = m.nonce := fun s' hsame hm =>
    ⟨m, hsame ▸ hm, rfl, rfl⟩
  cases i with
  | agentSendHandshake b nonce intent =>
    obtain ⟨-, -, rfl⟩ := h
    rcases hm with hm | rfl
    · exact Or.inl ⟨m, hm, rfl, rfl⟩
    · exact Or.inr ⟨intent, rfl⟩
  | maliciousReplay b m' =>
    obtain ⟨hm', rfl⟩ := h
    rcases hm with hm | rfl
    · exact Or.inl ⟨m, hm, rfl, rfl⟩
    · exact Or.inl ⟨m', hm', rfl, rfl⟩
  | agentRequestIntent b exp intent | byzantineTrigger | tickClock | stateCorruption b
  | gatewayRecoverCorruption b =>
    obtain ⟨-, rfl⟩ := h
    exact Or.inl (hold _ rfl hm)
  | gatewayReceiveKnk m' =>
    obtain ⟨-, -, -, rfl⟩ := h
    exact Or.inl (hold _ rfl hm)
  | gatewayParseSig b m' | gatewayEvaluateMama b score =>
    obtain ⟨-, -, rfl⟩ := h
    exact Or.inl (hold _ (by split <;> rfl) hm)
  | gatewayVerifySat b m' sat =>
    obtain ⟨-, -, -, rfl⟩ := h
    exact Or.inl (hold _ (by split <;> rfl) hm)

/-- Every message in transit, a replay too, has a nonce that its agent
sent. -/
theorem sent_of_run {ts : List (State Agent × Action Agent × State Agent)}
    (h : (spec c).Run ts s) (hm : m ∈ s.messages) : ∃ t ∈ ts, Sends m.agent m.nonce t := by
  induction h generalizing m with
  | init hs =>
    subst hs
    exact hm.elim
  | step _ i hnext ih =>
    rcases next_messages hnext hm with ⟨m', hm', hagent, hnonce⟩ | hsends
    · obtain ⟨t, ht, hsends⟩ := ih hm'
      exact ⟨t, List.mem_append_left _ ht, hagent ▸ hnonce ▸ hsends⟩
    · exact ⟨_, List.mem_append_right _ (List.mem_singleton.2 rfl), hsends⟩

variable (c) in
/-- **Each admission answers a handshake of its own.** Along every run,
whatever is replayed, corrupted and recovered, the nonces admitted for an
agent increase, and each is one that the agent sent before; so no two
admissions answer one nonce. -/
theorem admissions_agree {ts : List (State Agent × Action Agent × State Agent)}
    {s : State Agent} (h : (spec c).Run ts s) (a : Agent) :
    (admissions a ts).Pairwise (· < ·) ∧
      ∀ pre t post n, ts = pre ++ t :: post → admittedNonce a t = some n →
        ∃ t' ∈ pre, Sends a n t' := by
  refine ⟨admissions_increasing (fun i s s' hnext => next_agent hnext a) h, ?_⟩
  rintro pre ⟨s, i, s'⟩ post n hts hn
  obtain ⟨hpre, hnext⟩ := h.split hts
  -- what is admitted was in transit, so sent before
  obtain ⟨⟨m, hm, rfl, rfl⟩, -⟩ := (next_agent hnext a).admits hn
  exact sent_of_run hpre hm

/-- The gateway is corrupted once it admitted the handshake, and receives
it again after a replay: it was admitted once. -/
theorem admissions_agree_replayed : ∃ ts s,
    (spec checkedBounds).Run ts s ∧ handshake () true ∈ s.messages ∧ admissions () ts = [1] ∧
      (admissions () ts).Pairwise (· < ·) := by
  have hinit : (spec checkedBounds).Run [] (init : State Unit) := .init rfl
  have hsend := hinit.step (.agentSendHandshake () 1 .beamform) ⟨by decide, by decide, rfl⟩
  have hreceive := hsend.step (.gatewayReceiveKnk (handshake () false))
    ⟨Or.inr rfl, rfl, Or.inl rfl, rfl⟩
  have hparse := hreceive.step (.gatewayParseSig () (handshake () false))
    ⟨rfl, ⟨Or.inr rfl, rfl⟩, (if_pos Int.zero_lt_one).symm⟩
  have hcorrupt := hparse.step (.stateCorruption ()) ⟨Or.inr rfl, rfl⟩
  have hreplay := hcorrupt.step (.maliciousReplay () (handshake () false)) ⟨Or.inr rfl, rfl⟩
  have hagain := hreplay.step (.gatewayReceiveKnk (handshake () true))
    ⟨Or.inr rfl, rfl, Or.inr rfl, rfl⟩
  -- its nonce is no longer above the counter
  have hrefused := hagain.step (.gatewayParseSig () (handshake () true))
    ⟨rfl, ⟨Or.inr rfl, rfl⟩, (if_neg (lt_irrefl 1)).symm⟩
  exact ⟨_, _, hrefused, Or.inr rfl, rfl, (admissions_agree checkedBounds hrefused ()).1⟩

end Adversarial

end ThreatModel

end NhpSba
