import NhpSba.ThreatModel.TrueFormalStates
/-!
# Threat model — the formal model within the True model

The formal model keeps one score for each agent over a whole run and
nobody disturbs it; the True model picks a score at every evaluation, and
its adversary replays, compromises and partitions. Without their intents
and their scores, the states of the one are those of the other in which
the adversary has taken nothing (`reachable_bare_iff`): a step of the
formal model is one of the True model, and the way to a legal state needs
the adversary for nothing else, and one score of each agent.
-/

namespace NhpSba

namespace ThreatModel

namespace Formal

variable {Agent : Type*} {c : Constants} {i : Action Agent} {s s' : State Agent}

/-! ## States without intents and scores -/

/-- A token, whatever its intent. -/
def Sat.bare (sat : Sat Agent) : TrueFormal.Sat Agent where
  agent := sat.agent
  exp := sat.exp
  active := sat.active

/-- A message, whatever its intent. -/
def Message.bare (m : Message Agent) : ThreatModel.Message Agent where
  type := m.type
  agent := m.agent
  nonce := m.nonce

/-- A state without intents and scores. The adversary has taken nothing. -/
def State.bare (s : State Agent) : TrueFormal.State Agent where
  state := s.gatewayState
  highestNonce := s.highestNonce
  satRegistry := Set.image Sat.bare s.satRegistry
  network := Set.image Message.bare s.messages
  clock := s.clock
  byzantineServer := false
  byzantineAc := false
  networkPartition := false

/-- The True model's action for one of the formal model's, which evaluates
an agent at its score. -/
def Action.bare (mamaScores : Agent → ℤ) : Action Agent → TrueFormal.Action Agent
  | .agentRequestIntent a exp _ => .requestSat a exp
  | .agentSendHandshake a nonce _ => .common (.sendHandshake a nonce)
  | .gatewayReceiveKnk m => .receiveKnk m.bare
  | .gatewayParseSig a m => .parseSig a m.bare
  | .gatewayVerifySat a m sat => .verifySat a m.bare sat.bare
  | .gatewayEvaluateMama a => .evaluateMama a (mamaScores a)
  | .tickClock => .common .tick

variable [DecidableEq Agent]

/-- **A step of the formal model is one of the True model.** -/
theorem next_bare (hscores : ∀ a, 0 ≤ s.mamaScores a ∧ s.mamaScores a ≤ 100)
    (h : Next c i s s') : TrueFormal.Next c (i.bare s.mamaScores) s.bare s'.bare := by
  cases i with
  | agentRequestIntent a exp intent =>
    obtain ⟨hexp, rfl⟩ := h
    refine ⟨hexp, ?_⟩
    simp only [TrueFormal.RequestSAT, State.bare, Set.image_union, Set.image_singleton, Sat.bare]
  | agentSendHandshake a nonce intent =>
    obtain ⟨hnonce, -, rfl⟩ := h
    refine ⟨hnonce, hnonce, ?_⟩
    simp only [State.bare, Set.image_union, Set.image_singleton, Message.bare]
  | gatewayReceiveKnk m =>
    obtain ⟨hm, -, hstate, rfl⟩ := h
    exact ⟨rfl, Set.mem_image_of_mem _ hm, Or.inl hstate, rfl⟩
  | gatewayParseSig a m =>
    obtain ⟨hstate, ⟨hm, -, hagent⟩, rfl⟩ := h
    refine ⟨rfl, hstate, ⟨Set.mem_image_of_mem _ hm, hagent⟩, ?_⟩
    split
    · next hnew => exact (if_pos (Or.inl hnew)).symm
    · next hold => exact (if_neg (not_or.2 ⟨hold, Bool.false_ne_true⟩)).symm
  | gatewayVerifySat a m sat =>
    obtain ⟨hstate, ⟨hm, -, hagent⟩, ⟨hsat, hsatAgent, -⟩, rfl⟩ := h
    refine ⟨rfl, hstate, ⟨Set.mem_image_of_mem _ hm, hagent⟩,
      ⟨Set.mem_image_of_mem _ hsat, hsatAgent⟩, ?_⟩
    split
    · next hvalid => exact (if_pos (Or.inl hvalid)).symm
    · next hover => exact (if_neg (not_or.2 ⟨hover, Bool.false_ne_true⟩)).symm
  | gatewayEvaluateMama a =>
    obtain ⟨hstate, rfl⟩ := h
    refine ⟨rfl, hstate, hscores a, ?_⟩
    split
    · next henough => exact (if_pos (Or.inl henough)).symm
    · next hlow =>
      have hlow' := not_or.2 ⟨hlow, not_or.2 ⟨Bool.false_ne_true, Bool.false_ne_true⟩⟩
      exact (if_neg hlow').symm
  | tickClock =>
    obtain ⟨htime, rfl⟩ := h
    exact ⟨htime, rfl⟩

theorem reachable_bare (h : (spec c).Reachable s) : (TrueFormal.spec c).Reachable s.bare := by
  refine (h.invariant (I := fun s => (TrueFormal.spec c).Reachable s.bare ∧
    ∀ a, 0 ≤ s.mamaScores a ∧ s.mamaScores a ≤ 100) ?_ ?_).1
  · rintro s ⟨mamaScores, hscores, rfl⟩
    have hbare : (init mamaScores).bare = Vars.init := by
      simp only [State.bare, init, Vars.init, Set.image_empty]
    rw [hbare]
    exact ⟨System.Reachable.init rfl, hscores⟩
  · rintro i s s' ⟨hreach, hscores⟩ hnext
    refine ⟨hreach.step _ (next_bare hscores hnext), ?_⟩
    rw [next_mamaScores hnext]
    exact hscores

/-! ## States with one intent -/

omit [DecidableEq Agent]

/-- A token to monitor. -/
def Sat.ofBare (sat : TrueFormal.Sat Agent) : Sat Agent where
  agent := sat.agent
  exp := sat.exp
  intent := .monitor
  active := sat.active

/-- A message to monitor. -/
def Message.ofBare (m : ThreatModel.Message Agent) : Message Agent where
  type := m.type
  agent := m.agent
  nonce := m.nonce
  intent := .monitor

/-- A state with scores, in which everyone monitors. -/
def State.ofBare (mamaScores : Agent → ℤ) (t : TrueFormal.State Agent) : State Agent where
  gatewayState := t.state
  highestNonce := t.highestNonce
  satRegistry := Set.image Sat.ofBare t.satRegistry
  messages := Set.image Message.ofBare t.network
  clock := t.clock
  mamaScores

/-- The adversary has taken nothing, and the network is whole. -/
structure Untouched (t : TrueFormal.State Agent) : Prop where
  byzantineServer : t.byzantineServer = false
  byzantineAc : t.byzantineAc = false
  networkPartition : t.networkPartition = false

theorem untouched_bare : Untouched s.bare := ⟨rfl, rfl, rfl⟩

theorem bare_ofBare (mamaScores : Agent → ℤ) {t : TrueFormal.State Agent} (ht : Untouched t) :
    (State.ofBare mamaScores t).bare = t := by
  have hsats : Set.image Sat.bare (Set.image Sat.ofBare t.satRegistry) = t.satRegistry := by
    rw [Set.image_image]
    exact Set.image_id' _
  have hmessages : Set.image Message.bare (Set.image Message.ofBare t.network) = t.network := by
    rw [Set.image_image]
    exact Set.image_id' _
  obtain ⟨state, highestNonce, satRegistry, network, clock, _, _, _⟩ := t
  obtain ⟨rfl, rfl, rfl⟩ := ht
  simp only [State.bare, State.ofBare, hsats, hmessages]

variable [DecidableEq Agent] {t v v' : TrueFormal.State Agent} {k : TrueFormal.Action Agent}

omit [DecidableEq Agent] in
/-- No one helps a check along. -/
theorem Untouched.no_help (hv : Untouched v) :
    ¬ v.byzantineServer = true ∧ ¬ (v.byzantineAc = true ∨ v.byzantineServer = true) := by
  simp [hv.byzantineServer, hv.byzantineAc]

omit [DecidableEq Agent] in
/-- Of the shared actions, the way to an untouched state needs two. -/
theorem Untouched.needed_common {action : CommonAction Agent} (ht : Untouched t)
    (hneeded : TrueFormal.Needed t (.common action)) :
    action = .tick ∨ ∃ a nonce, action = .sendHandshake a nonce := by
  cases action with
  | sendHandshake a nonce => exact Or.inr ⟨a, nonce, rfl⟩
  | tick => exact Or.inl rfl
  | compromiseServer => cases hneeded.symm.trans ht.byzantineServer
  | compromiseAc => cases hneeded.symm.trans ht.byzantineAc
  | togglePartition => cases hneeded.symm.trans ht.networkPartition
  | maliciousReplay _ | undefinedBehaviorHandling _ => exact hneeded.elim

/-- On the way to an untouched state nothing is touched. -/
theorem Untouched.step (ht : Untouched t) (hv : Untouched v) (hneeded : TrueFormal.Needed t k)
    (h : TrueFormal.Next c k v v') : Untouched v' := by
  obtain ⟨hserver, hac, hpartition⟩ := hv
  cases k with
  | requestSat a exp =>
    obtain ⟨-, rfl⟩ := h
    exact ⟨hserver, hac, hpartition⟩
  | common action =>
    rcases ht.needed_common hneeded with rfl | ⟨a, nonce, rfl⟩
    · obtain ⟨-, rfl⟩ := h
      exact ⟨hserver, hac, hpartition⟩
    · obtain ⟨-, -, rfl⟩ := h
      exact ⟨hserver, hac, hpartition⟩
  | receiveKnk m =>
    obtain ⟨-, -, -, rfl⟩ := h
    exact ⟨hserver, hac, hpartition⟩
  | parseSig a m =>
    obtain ⟨-, -, -, rfl⟩ := h
    split
    · exact ⟨hserver, hac, hpartition⟩
    · exact ⟨hserver, hac, hpartition⟩
  | verifySat a m sat =>
    obtain ⟨-, -, -, -, rfl⟩ := h
    split
    · exact ⟨hserver, hac, hpartition⟩
    · exact ⟨hserver, hac, hpartition⟩
  | evaluateMama a score =>
    obtain ⟨-, -, -, rfl⟩ := h
    split
    · exact ⟨hserver, hac, hpartition⟩
    · exact ⟨hserver, hac, hpartition⟩

/-- **A step on the way to an untouched state is one of the formal model**,
at one score for each agent. -/
theorem next_ofBare (ht : Untouched t) (hv : Untouched v) (hlegal : TrueFormal.Legal c v)
    (hneeded : TrueFormal.Needed t k) (h : TrueFormal.Next c k v v') :
    ∃ i, Next c i (.ofBare (TrueFormal.scoreOf t) v) (.ofBare (TrueFormal.scoreOf t) v') := by
  obtain ⟨hserver, hanyone⟩ := hv.no_help
  cases k with
  | requestSat a exp =>
    obtain ⟨hexp, rfl⟩ := h
    refine ⟨.agentRequestIntent a exp .monitor, hexp, ?_⟩
    simp only [AgentRequestIntent, State.ofBare, Set.image_union, Set.image_singleton, Sat.ofBare]
  | common action =>
    rcases ht.needed_common hneeded with rfl | ⟨a, nonce, rfl⟩
    · obtain ⟨htime, rfl⟩ := h
      exact ⟨.tickClock, htime, rfl⟩
    · obtain ⟨hnonce, -, rfl⟩ := h
      refine ⟨.agentSendHandshake a nonce .monitor, hnonce, hnonce, ?_⟩
      simp only [State.ofBare, Set.image_union, Set.image_singleton, Message.ofBare]
  | receiveKnk m =>
    obtain ⟨-, hm, hstate, rfl⟩ := h
    have hlisten := hstate.resolve_right (hlegal.agents m.agent).ne_corrupted
    exact ⟨.gatewayReceiveKnk (.ofBare m), Set.mem_image_of_mem _ hm, rfl, hlisten, rfl⟩
  | parseSig a m =>
    obtain ⟨-, hstate, ⟨hm, hagent⟩, rfl⟩ := h
    refine ⟨.gatewayParseSig a (.ofBare m), hstate, ⟨Set.mem_image_of_mem _ hm, rfl, hagent⟩, ?_⟩
    rw [if_congr (or_iff_left hserver) rfl rfl]
    exact apply_ite (State.ofBare _) _ _ _
  | verifySat a m sat =>
    obtain ⟨-, hstate, ⟨hm, hagent⟩, ⟨hsat, hsatAgent⟩, rfl⟩ := h
    refine ⟨.gatewayVerifySat a (.ofBare m) (.ofBare sat), hstate,
      ⟨Set.mem_image_of_mem _ hm, rfl, hagent⟩, ⟨Set.mem_image_of_mem _ hsat, hsatAgent, rfl⟩, ?_⟩
    rw [if_congr (or_iff_left hserver) rfl rfl]
    exact apply_ite (State.ofBare _) _ _ _
  | evaluateMama a score =>
    obtain ⟨-, hstate, -, rfl⟩ := h
    obtain rfl : score = TrueFormal.scoreOf t a := hneeded
    refine ⟨.gatewayEvaluateMama a, hstate, ?_⟩
    rw [if_congr (or_iff_left hanyone) rfl rfl]
    exact apply_ite (State.ofBare _) _ _ _

omit [DecidableEq Agent] in
theorem scoreOf_bounds (a : Agent) :
    0 ≤ TrueFormal.scoreOf t a ∧ TrueFormal.scoreOf t a ≤ 100 := by
  unfold TrueFormal.scoreOf
  split
  · decide
  · decide

/-- **The way to an untouched state** is a run of the formal model. -/
theorem reachable_ofBare (ht : Untouched t) (h : (TrueFormal.spec c).Reachable t) :
    (spec c).Reachable (.ofBare (TrueFormal.scoreOf t) t) := by
  have hway := (TrueFormal.legal_of_reachable h).onTheWay
  refine (hway.invariant (I := fun v => ((TrueFormal.spec c).Reachable v ∧ Untouched v) ∧
    (spec c).Reachable (.ofBare (TrueFormal.scoreOf t) v)) ?_ ?_).2
  · rintro v rfl
    have hinit : State.ofBare (TrueFormal.scoreOf t) Vars.init = init (TrueFormal.scoreOf t) := by
      simp only [State.ofBare, init, Vars.init, Set.image_empty]
    refine ⟨⟨System.Reachable.init rfl, rfl, rfl, rfl⟩, ?_⟩
    rw [hinit]
    exact System.Reachable.init ⟨_, scoreOf_bounds, rfl⟩
  · rintro k v v' ⟨⟨hreach, hv⟩, hmodel⟩ ⟨hneeded, hnext⟩
    obtain ⟨i, hi⟩ := next_ofBare ht hv (TrueFormal.legal_of_reachable hreach) hneeded hnext
    exact ⟨⟨hreach.step k hnext, ht.step hv hneeded hnext⟩, hmodel.step i hi⟩

variable (c t) in
/-- **Without their intents and their scores**, the reachable states of the
formal model are those of the True model that the adversary has not
touched. -/
theorem reachable_bare_iff : (∃ s : State Agent, (spec c).Reachable s ∧ s.bare = t) ↔
    (TrueFormal.spec c).Reachable t ∧ Untouched t := by
  constructor
  · rintro ⟨s, hs, rfl⟩
    exact ⟨reachable_bare hs, untouched_bare⟩
  · rintro ⟨hreach, ht⟩
    exact ⟨_, reachable_ofBare ht hreach, bare_ofBare _ ht⟩

end Formal

end ThreatModel

end NhpSba
