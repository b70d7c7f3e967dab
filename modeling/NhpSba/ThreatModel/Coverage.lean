import NhpSba.ThreatModel.Adversarial
import NhpSba.ThreatModel.Simulator
/-!
# Threat model — what the simulator covers of the adversarial model

`tlc_simulator.py` keeps lists where the TLA+ model has sets, knows one
intent of the two, and evaluates two scores of the hundred and one. Each of
its runs is one of the model's (`reachable_abs`). Of the model's runs with
the one intent it misses some exactly where the threshold lies above 90,
its higher score, and a score can still reach it (`coverage_iff`).
-/

namespace NhpSba

namespace ThreatModel

namespace Coverage

open Adversarial (Action)

variable {c : Constants} {agents : List String} {s s' : Simulator.State}

/-- The agents of the simulator's list. -/
abbrev Listed (agents : List String) : Type := {a : String // a ∈ agents}

/-- The entry of the simulator's registry for a token. -/
def entry (sat : Formal.Sat (Listed agents)) : Simulator.Sat where
  agent := sat.agent
  exp := sat.exp
  intent := .beamform
  active := sat.active

/-- The simulator's message for one of the model. -/
def listedMessage (m : Adversarial.Message (Listed agents)) : Simulator.Message where
  type := m.type
  agent := m.agent
  nonce := m.nonce
  intent := .beamform
  isReplay := m.isReplay

variable (agents) in
/-- The model's state that the simulator's lists stand for. -/
def abs (s : Simulator.State) : Adversarial.State (Listed agents) where
  gatewayState := fun a => s.gatewayState a
  highestNonce := fun a => s.highestNonce a
  satRegistry := {sat | sat.intent = .beamform ∧ entry sat ∈ s.satRegistry}
  messages := {m | m.intent = .beamform ∧ listedMessage m ∈ s.messages}
  clock := s.clock
  byzantineActive := s.byzantineActive

/-- The action asks and sends for the simulator's one intent. -/
def OneIntent {Agent : Type*} : Action Agent → Prop
  | .agentRequestIntent _ _ intent => intent = .beamform
  | .agentSendHandshake _ _ intent => intent = .beamform
  | _ => True

/-- The adversarial model with the one intent. -/
def oneIntent (c : Constants) (Agent : Type*) [DecidableEq Agent] :
    System (Action Agent) (Adversarial.State Agent) where
  Init s := s = Adversarial.init
  Next i s s' := OneIntent i ∧ Adversarial.Next c i s s'

/-- The model's message for one of the simulator's. -/
def upMessage (m : Simulator.Message) (h : m.agent ∈ agents) :
    Adversarial.Message (Listed agents) where
  type := m.type
  agent := ⟨m.agent, h⟩
  nonce := m.nonce
  intent := .beamform
  isReplay := m.isReplay

theorem upMessage_mem {m : Simulator.Message} (hm : m ∈ s.messages) (h : m.agent ∈ agents) :
    upMessage m h ∈ (abs agents s).messages :=
  ⟨rfl, hm⟩

theorem listedMessage_inj {m m' : Adversarial.Message (Listed agents)} (hm : m.intent = .beamform)
    (hm' : m'.intent = .beamform) (h : listedMessage m = listedMessage m') : m = m' := by
  obtain ⟨type, agent, nonce, intent, isReplay⟩ := m
  obtain ⟨type', agent', nonce', intent', isReplay'⟩ := m'
  obtain rfl : agent = agent' := Subtype.ext (congrArg Simulator.Message.agent h)
  obtain rfl : nonce = nonce' := congrArg Simulator.Message.nonce h
  obtain rfl : isReplay = isReplay' := congrArg Simulator.Message.isReplay h
  obtain rfl : type = type' := congrArg Simulator.Message.type h
  obtain rfl : intent = intent' := hm.trans hm'.symm
  rfl

theorem entry_inj {sat sat' : Formal.Sat (Listed agents)} (hsat : sat.intent = .beamform)
    (hsat' : sat'.intent = .beamform) (h : entry sat = entry sat') : sat = sat' := by
  obtain ⟨agent, exp, intent, active⟩ := sat
  obtain ⟨agent', exp', intent', active'⟩ := sat'
  obtain rfl : agent = agent' := Subtype.ext (congrArg Simulator.Sat.agent h)
  obtain rfl : exp = exp' := congrArg Simulator.Sat.exp h
  obtain rfl : active = active' := congrArg Simulator.Sat.active h
  obtain rfl : intent = intent' := hsat.trans hsat'.symm
  rfl

/-! ## What the simulator's updates stand for -/

theorem abs_send (m : Adversarial.Message (Listed agents)) (hm : m.intent = .beamform) :
    abs agents (s.send (listedMessage m)) =
      { abs agents s with messages := (abs agents s).messages ∪ {m} } := by
  have hmessages : (abs agents (s.send (listedMessage m))).messages =
      (abs agents s).messages ∪ {m} := by
    ext m'
    constructor
    · rintro ⟨hintent, hm'⟩
      rcases List.mem_append.1 hm' with hm' | hm'
      · exact Or.inl ⟨hintent, hm'⟩
      · exact Or.inr (listedMessage_inj hintent hm (List.mem_singleton.1 hm'))
    · rintro (⟨hintent, hm'⟩ | rfl)
      · exact ⟨hintent, List.mem_append_left _ hm'⟩
      · exact ⟨hm, List.mem_append_right _ (List.mem_singleton.2 rfl)⟩
  rw [← hmessages]
  rfl

theorem abs_request (sat : Formal.Sat (Listed agents)) (hsat : sat.intent = .beamform) :
    abs agents { s with satRegistry := s.satRegistry ++ [entry sat] } =
      { abs agents s with satRegistry := (abs agents s).satRegistry ∪ {sat} } := by
  have hregistry : (abs agents { s with satRegistry := s.satRegistry ++ [entry sat] }).satRegistry =
      (abs agents s).satRegistry ∪ {sat} := by
    ext sat'
    constructor
    · rintro ⟨hintent, hsat'⟩
      rcases List.mem_append.1 hsat' with hsat' | hsat'
      · exact Or.inl ⟨hintent, hsat'⟩
      · exact Or.inr (entry_inj hintent hsat (List.mem_singleton.1 hsat'))
    · rintro (⟨hintent, hsat'⟩ | rfl)
      · exact ⟨hintent, List.mem_append_left _ hsat'⟩
      · exact ⟨hsat, List.mem_append_right _ (List.mem_singleton.2 rfl)⟩
  rw [← hregistry]
  rfl

theorem update_listed {β : Type*} (f : String → β) (a : Listed agents) (x : β) :
    (fun b : Listed agents => Function.update f a x b) =
      Function.update (fun b : Listed agents => f b) a x :=
  Function.update_comp_eq_of_injective f Subtype.val_injective a x

theorem abs_setGateway (a : Listed agents) (g : GatewayState) :
    abs agents (s.setGateway a g) = (abs agents s).setGateway a g := by
  simp only [abs, Simulator.State.setGateway, Adversarial.State.setGateway, update_listed]

theorem abs_count (a : Listed agents) (n : ℤ) :
    abs agents { s with highestNonce := Function.update s.highestNonce a n } =
      { abs agents s with highestNonce := Function.update (abs agents s).highestNonce a n } := by
  simp only [abs, update_listed]

/-! ## Every run of the simulator is one of the model -/

/-- **A step of the simulator is a step of the model** with the one
intent. -/
theorem next_of_step (hs : Simulator.Pending c agents s) (h : Simulator.Step c agents s s') :
    ∃ i, (oneIntent c (Listed agents)).Next i (abs agents s) (abs agents s') := by
  cases h with
  | tickClock h => exact ⟨.tickClock, trivial, h, rfl⟩
  | byzantineTrigger h => exact ⟨.byzantineTrigger, trivial, h, rfl⟩
  | agentRequestIntent a ha exp h =>
    exact ⟨.agentRequestIntent ⟨a, ha⟩ exp .beamform, rfl, ⟨h.1, h.2⟩,
      abs_request { agent := ⟨a, ha⟩, exp, intent := .beamform, active := true } rfl⟩
  | agentSendHandshake a ha nonce h =>
    exact ⟨.agentSendHandshake ⟨a, ha⟩ nonce .beamform, rfl, h, h, abs_send
      { type := .knk, agent := ⟨a, ha⟩, nonce, intent := .beamform, isReplay := false } rfl⟩
  | maliciousReplay a ha m hm =>
    have hagent := (hs m hm).1
    exact ⟨.maliciousReplay ⟨a, ha⟩ (upMessage m hagent), trivial, upMessage_mem hm hagent,
      abs_send { upMessage m hagent with isReplay := true } rfl⟩
  | stateCorruption a ha h =>
    exact ⟨.stateCorruption ⟨a, ha⟩, trivial, h, abs_setGateway ⟨a, ha⟩ _⟩
  | gatewayRecoverCorruption a ha h =>
    exact ⟨.gatewayRecoverCorruption ⟨a, ha⟩, trivial, h, abs_setGateway ⟨a, ha⟩ _⟩
  | gatewayReceiveKnk a ha m hm h =>
    have hagent := (hs m hm).1
    exact ⟨.gatewayReceiveKnk (upMessage m hagent), trivial, upMessage_mem hm hagent, rfl, h,
      abs_setGateway ⟨m.agent, hagent⟩ _⟩
  | gatewayParseSig m ha hm h =>
    refine ⟨.gatewayParseSig ⟨m.agent, ha⟩ (upMessage m ha), trivial, h,
      ⟨upMessage_mem hm ha, rfl⟩, ?_⟩
    by_cases hnew : s.highestNonce m.agent < m.nonce
    · rw [if_pos hnew]
      refine Eq.trans ?_ (if_pos hnew).symm
      rw [← abs_count ⟨m.agent, ha⟩]
      exact abs_setGateway ⟨m.agent, ha⟩ _
    · rw [if_neg hnew]
      exact (abs_setGateway ⟨m.agent, ha⟩ _).trans (if_neg hnew).symm
  | gatewayVerifySat m ha hm sat hsat h =>
    let sat' : Formal.Sat (Listed agents) :=
      { agent := ⟨m.agent, ha⟩, exp := sat.exp, intent := .beamform, active := sat.active }
    have hentry : entry sat' = sat := by
      obtain ⟨-, hagent, -⟩ := hsat
      obtain ⟨agent, exp, ⟨⟩, active⟩ := sat
      obtain rfl : agent = m.agent := hagent
      rfl
    refine ⟨.gatewayVerifySat ⟨m.agent, ha⟩ (upMessage m ha) sat', trivial, h,
      ⟨upMessage_mem hm ha, rfl⟩, ⟨⟨rfl, ?_⟩, rfl, rfl⟩, ?_⟩
    · rw [hentry]
      exact hsat.1
    · by_cases hvalid : s.clock < sat.exp
      · rw [if_pos hvalid]
        exact (abs_setGateway ⟨m.agent, ha⟩ _).trans (if_pos hvalid).symm
      · rw [if_neg hvalid]
        exact (abs_setGateway ⟨m.agent, ha⟩ _).trans (if_neg hvalid).symm
  | gatewayEvaluateMama a ha score hscore h =>
    refine ⟨.gatewayEvaluateMama ⟨a, ha⟩ score, trivial, h, by omega, ?_⟩
    by_cases henough : s.byzantineActive = true ∨ c.minSafetyScore ≤ score
    · rw [if_pos henough]
      exact (abs_setGateway ⟨a, ha⟩ _).trans (if_pos henough).symm
    · rw [if_neg henough]
      exact (abs_setGateway ⟨a, ha⟩ _).trans (if_neg henough).symm

theorem abs_new : abs agents Simulator.State.new = Adversarial.init := by
  have hsats : {sat : Formal.Sat (Listed agents) |
      sat.intent = .beamform ∧ entry sat ∈ ([] : List Simulator.Sat)} = ∅ := by
    ext sat
    simp
  have hmessages : {m : Adversarial.Message (Listed agents) |
      m.intent = .beamform ∧ listedMessage m ∈ ([] : List Simulator.Message)} = ∅ := by
    ext m
    simp
  simp only [abs, Simulator.State.new, Adversarial.init, hsats, hmessages]

theorem reachable_abs (h : (Simulator.simulator c agents).Reachable s) :
    (oneIntent c (Listed agents)).Reachable (abs agents s) := by
  refine (h.invariant (I := fun s => Simulator.Pending c agents s ∧
    (oneIntent c (Listed agents)).Reachable (abs agents s)) ?_ ?_).2
  · rintro s rfl
    exact ⟨fun m hm => (List.not_mem_nil hm).elim, System.Reachable.init abs_new⟩
  · rintro name s s' ⟨hpending, hreach⟩ hnext
    have hstep := Simulator.step_of_mem hnext
    obtain ⟨i, hi⟩ := next_of_step hpending hstep
    exact ⟨hpending.step hstep, hreach.step i hi⟩

/-! ## Which runs of the model the simulator has -/

variable (c) in
/-- The simulator's scores reach the threshold where any score does. -/
def ScoresCover : Prop := ¬ (90 < c.minSafetyScore ∧ c.minSafetyScore ≤ 100)

/-- One of the simulator's two scores has the outcome of a given score. -/
theorem exists_score (hcover : ScoresCover c) {score : ℤ} (hscore : 0 ≤ score ∧ score ≤ 100) :
    ∃ score', (score' = 0 ∨ score' = 90) ∧
      (c.minSafetyScore ≤ score' ↔ c.minSafetyScore ≤ score) := by
  unfold ScoresCover at hcover
  by_cases henough : c.minSafetyScore ≤ score
  · exact ⟨90, Or.inr rfl, by omega⟩
  · exact ⟨0, Or.inl rfl, by omega⟩

/-- **A step of the model is one of the simulator**, where the scores cover
or no agent waits for an evaluation. -/
theorem step_of_next {i : Action (Listed agents)} {t' : Adversarial.State (Listed agents)}
    (hcover : ScoresCover c ∨ ∀ a ∈ agents, s.gatewayState a ≠ .evaluateMama)
    (h : (oneIntent c (Listed agents)).Next i (abs agents s) t') :
    ∃ s', Simulator.Step c agents s s' ∧ abs agents s' = t' := by
  obtain ⟨hone, hnext⟩ := h
  cases i with
  | tickClock =>
    obtain ⟨htime, rfl⟩ := hnext
    exact ⟨_, .tickClock htime, rfl⟩
  | byzantineTrigger =>
    obtain ⟨hhonest, rfl⟩ := hnext
    exact ⟨_, .byzantineTrigger hhonest, rfl⟩
  | agentRequestIntent a exp intent =>
    obtain rfl := hone
    obtain ⟨hexp, rfl⟩ := hnext
    exact ⟨_, .agentRequestIntent a.1 a.2 exp hexp,
      abs_request { agent := a, exp, intent := .beamform, active := true } rfl⟩
  | agentSendHandshake a nonce intent =>
    obtain rfl := hone
    obtain ⟨hnonce, -, rfl⟩ := hnext
    exact ⟨_, .agentSendHandshake a.1 a.2 nonce hnonce, abs_send
      { type := .knk, agent := a, nonce, intent := .beamform, isReplay := false } rfl⟩
  | maliciousReplay a m =>
    obtain ⟨⟨hintent, hm⟩, rfl⟩ := hnext
    exact ⟨_, .maliciousReplay a.1 a.2 (listedMessage m) hm,
      abs_send { m with isReplay := true } hintent⟩
  | stateCorruption a =>
    obtain ⟨hstate, rfl⟩ := hnext
    exact ⟨_, .stateCorruption a.1 a.2 hstate, abs_setGateway a _⟩
  | gatewayRecoverCorruption a =>
    obtain ⟨hstate, rfl⟩ := hnext
    exact ⟨_, .gatewayRecoverCorruption a.1 a.2 hstate, abs_setGateway a _⟩
  | gatewayReceiveKnk m =>
    obtain ⟨⟨-, hm⟩, -, hstate, rfl⟩ := hnext
    exact ⟨_, .gatewayReceiveKnk m.agent.1 m.agent.2 (listedMessage m) hm hstate,
      abs_setGateway m.agent _⟩
  | gatewayParseSig a m =>
    obtain ⟨hstate, ⟨⟨-, hm⟩, rfl⟩, rfl⟩ := hnext
    refine ⟨_, .gatewayParseSig (listedMessage m) m.agent.2 hm hstate, ?_⟩
    by_cases hnew : s.highestNonce m.agent < m.nonce
    · refine (congrArg (abs agents) (if_pos hnew)).trans (Eq.trans ?_ (if_pos hnew).symm)
      rw [← abs_count m.agent]
      exact abs_setGateway m.agent _
    · refine (congrArg (abs agents) (if_neg hnew)).trans (Eq.trans ?_ (if_neg hnew).symm)
      exact abs_setGateway m.agent _
  | gatewayVerifySat a m sat =>
    obtain ⟨hstate, ⟨⟨hmIntent, hm⟩, rfl⟩, ⟨⟨hsatIntent, hsat⟩, hagent, hintent⟩, rfl⟩ := hnext
    refine ⟨_, .gatewayVerifySat (listedMessage m) m.agent.2 hm (entry sat)
      ⟨hsat, congrArg Subtype.val hagent, rfl⟩ hstate, ?_⟩
    by_cases hvalid : s.clock < sat.exp
    · refine (congrArg (abs agents) (if_pos hvalid)).trans (Eq.trans ?_ (if_pos hvalid).symm)
      exact abs_setGateway m.agent _
    · refine (congrArg (abs agents) (if_neg hvalid)).trans (Eq.trans ?_ (if_neg hvalid).symm)
      exact abs_setGateway m.agent _
  | gatewayEvaluateMama a score =>
    obtain ⟨hstate, hscore, rfl⟩ := hnext
    rcases hcover with hcover | hidle
    · obtain ⟨score', hscore', hsame⟩ := exists_score hcover hscore
      refine ⟨_, .gatewayEvaluateMama a.1 a.2 score' hscore' hstate, ?_⟩
      by_cases henough : s.byzantineActive = true ∨ c.minSafetyScore ≤ score
      · have henough' := henough.imp_right hsame.2
        refine (congrArg (abs agents) (if_pos henough')).trans (Eq.trans ?_ (if_pos henough).symm)
        exact abs_setGateway a _
      · have henough' := fun h => henough (Or.imp_right hsame.1 h)
        refine (congrArg (abs agents) (if_neg henough')).trans (Eq.trans ?_ (if_neg henough).symm)
        exact abs_setGateway a _
    · exact absurd hstate (hidle a.1 a.2)

/-- The model with the one intent is the model, with fewer actions. -/
theorem reachable_spec {Agent : Type*} [DecidableEq Agent] {t : Adversarial.State Agent}
    (h : (oneIntent c Agent).Reachable t) : (Adversarial.spec c).Reachable t := by
  refine h.invariant (I := (Adversarial.spec c).Reachable) ?_ ?_
  · intro t ht
    exact System.Reachable.init ht
  · intro i t t' ht hnext
    exact ht.step i hnext.2

/-- An agent comes to its evaluation after a handshake and a token. -/
theorem bounds_of_verified (h : (Simulator.simulator c agents).Reachable s) {a : String}
    (ha : a ∈ agents) (hstate : Verified (s.gatewayState a)) :
    1 ≤ c.maxNonce ∧ 1 ≤ c.maxTime := by
  have hgrounded := Adversarial.grounded_of_reachable (reachable_spec (reachable_abs h))
  exact hgrounded.verified ⟨a, ha⟩ hstate

/-- Where no agent can come to its evaluation none waits for it. -/
theorem ne_evaluateMama (hidle : agents = [] ∨ c.maxNonce < 1 ∨ c.maxTime < 1)
    (h : (Simulator.simulator c agents).Reachable s) {a : String} (ha : a ∈ agents) :
    s.gatewayState a ≠ .evaluateMama := by
  intro hstate
  have hbounds := bounds_of_verified h ha (Or.inl hstate)
  rcases hidle with rfl | hidle
  · exact List.not_mem_nil ha
  · omega

theorem exists_reachable (hcover : ScoresCover c ∨ agents = [] ∨ c.maxNonce < 1 ∨ c.maxTime < 1)
    {t : Adversarial.State (Listed agents)} (h : (oneIntent c (Listed agents)).Reachable t) :
    ∃ s, (Simulator.simulator c agents).Reachable s ∧ abs agents s = t := by
  refine h.invariant (I := fun t => ∃ s, (Simulator.simulator c agents).Reachable s ∧
    abs agents s = t) ?_ ?_
  · rintro t rfl
    exact ⟨Simulator.State.new, System.Reachable.init rfl, abs_new⟩
  · rintro i t t' ⟨s, hs, rfl⟩ hnext
    have hquiet := hcover.imp_right fun hidle a (ha : a ∈ agents) => ne_evaluateMama hidle hs ha
    obtain ⟨s', hstep, rfl⟩ := step_of_next hquiet hnext
    obtain ⟨name, hname⟩ := Simulator.listed_of_step hstep
    exact ⟨s', hs.step name hname, rfl⟩

/-! ## What the simulator misses -/

/-- Above the simulator's scores only a byzantine policy engine
establishes. -/
def ByzantineOnly (s : Simulator.State) : Prop :=
  s.byzantineActive = false → ∀ a, s.gatewayState a ≠ .established

theorem ByzantineOnly.setGateway {a : String} {g : GatewayState} (hs : ByzantineOnly s)
    (hg : g ≠ .established) : ByzantineOnly (s.setGateway a g) := by
  intro hhonest b
  by_cases hab : b = a
  · subst hab
    exact (Function.update_self ..).trans_ne hg
  · exact (Function.update_of_ne hab ..).trans_ne (hs hhonest b)

theorem ByzantineOnly.step (hscore : 90 < c.minSafetyScore) (hs : ByzantineOnly s)
    (h : Simulator.Step c agents s s') : ByzantineOnly s' := by
  cases h with
  | tickClock h => exact hs
  | byzantineTrigger h => exact fun hhonest => by cases hhonest
  | agentRequestIntent a ha exp h => exact hs
  | agentSendHandshake a ha nonce h => exact hs
  | maliciousReplay a ha m hm => exact hs
  | stateCorruption a ha h => exact hs.setGateway (by decide)
  | gatewayRecoverCorruption a ha h => exact hs.setGateway (by decide)
  | gatewayReceiveKnk a ha m hm h => exact hs.setGateway (by decide)
  | gatewayParseSig m ha hm h =>
    split
    · exact ByzantineOnly.setGateway hs (by decide)
    · exact hs.setGateway (by decide)
  | gatewayVerifySat m ha hm sat hsat h =>
    split
    · exact hs.setGateway (by decide)
    · exact hs.setGateway (by decide)
  | gatewayEvaluateMama a ha score hscores h =>
    split
    · next henough =>
      -- neither score is enough, so the engine is byzantine
      rcases henough with hbyzantine | henough
      · exact fun hhonest => by cases hbyzantine.symm.trans hhonest
      · omega
    · exact hs.setGateway (by decide)

theorem byzantineOnly_of_reachable (hscore : 90 < c.minSafetyScore)
    (h : (Simulator.simulator c agents).Reachable s) : ByzantineOnly s := by
  refine h.invariant ?_ ?_
  · rintro s rfl _ a ha
    cases ha
  · intro name s s' hs hnext
    exact hs.step hscore (Simulator.step_of_mem hnext)

/-- In the model the full score establishes without it. -/
theorem exists_established {Agent : Type*} [DecidableEq Agent] (a : Agent)
    (hnonce : 1 ≤ c.maxNonce) (htime : 1 ≤ c.maxTime) (hscore : c.minSafetyScore ≤ 100) :
    ∃ t, (oneIntent c Agent).Reachable t ∧ t.byzantineActive = false ∧
      t.gatewayState a = .established := by
  have hinit : (oneIntent c Agent).Reachable Adversarial.init := System.Reachable.init rfl
  have hsend := hinit.step (.agentSendHandshake a 1 .beamform)
    ⟨rfl, ⟨le_rfl, hnonce⟩, ⟨le_rfl, hnonce⟩, rfl⟩
  have hrequest := hsend.step (.agentRequestIntent a 1 .beamform) ⟨rfl, ⟨le_rfl, htime⟩, rfl⟩
  have hreceive := hrequest.step (.gatewayReceiveKnk (Adversarial.handshake a false))
    ⟨trivial, Or.inr rfl, rfl, Or.inl rfl, rfl⟩
  have hparse := hreceive.step (.gatewayParseSig a (Adversarial.handshake a false))
    ⟨trivial, Function.update_self .., ⟨Or.inr rfl, rfl⟩, (if_pos Int.zero_lt_one).symm⟩
  have hverify := hparse.step
    (.gatewayVerifySat a (Adversarial.handshake a false) (Adversarial.token a))
    ⟨trivial, Function.update_self .., ⟨Or.inr rfl, rfl⟩, ⟨Or.inr rfl, rfl, rfl⟩,
      (if_pos Int.zero_lt_one).symm⟩
  have hevaluate := hverify.step (.gatewayEvaluateMama a 100)
    ⟨trivial, Function.update_self .., by decide, (if_pos (Or.inr hscore)).symm⟩
  exact ⟨_, hevaluate, rfl, Function.update_self ..⟩

/-! ## The coverage -/

variable (c agents) in
/-- **What the simulator covers.** Every state it reaches stands for one
that the model reaches with the one intent; and it reaches all of them
exactly where its scores cover, or no agent can come to its evaluation. -/
theorem coverage_iff :
    (∀ s, (Simulator.simulator c agents).Reachable s →
      (oneIntent c (Listed agents)).Reachable (abs agents s)) ∧
    ((∀ t, (oneIntent c (Listed agents)).Reachable t →
        ∃ s, (Simulator.simulator c agents).Reachable s ∧ abs agents s = t) ↔
      ¬ (90 < c.minSafetyScore ∧ c.minSafetyScore ≤ 100) ∨
        agents = [] ∨ c.maxNonce < 1 ∨ c.maxTime < 1) := by
  refine ⟨fun s hs => reachable_abs hs, fun h => ?_, fun hcover t ht => exists_reachable hcover ht⟩
  by_contra hmissed
  push Not at hmissed
  obtain ⟨⟨habove, hbelow⟩, hagents, hnonce, htime⟩ := hmissed
  obtain ⟨a, ha⟩ := List.exists_mem_of_ne_nil agents hagents
  obtain ⟨t, ht, hhonest, hstate⟩ :=
    exists_established (⟨a, ha⟩ : Listed agents) hnonce htime hbelow
  obtain ⟨s, hs, rfl⟩ := h t ht
  exact byzantineOnly_of_reachable habove hs hhonest a hstate

end Coverage

end ThreatModel

end NhpSba
