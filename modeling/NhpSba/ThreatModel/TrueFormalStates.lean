import NhpSba.ThreatModel.SharedActions
import NhpSba.ThreatModel.TokenBounds
/-!
# Threat model — the reachable states of the True model

A state is reachable exactly where it is `Legal` (`reachable_iff_legal`): finitely
many messages and tokens within the bounds, and each agent at a place that
what is in the network and the registry accounts for (`Placed`). To get
there, all is sent and asked for first; then every agent goes as far as it
can before the clock ticks; the tokens that must be over are waited for; the
adversary takes whom it will; and the last moves are made.
-/

namespace NhpSba

namespace ThreatModel

namespace TrueFormal

variable {Agent : Type*} {c : Constants} {i : Action Agent} {s s' : State Agent} {a : Agent}

/-! ## Legal states -/

/-- The counter is the nonce of a message of the agent. -/
def Heard (a : Agent) (s : State Agent) : Prop :=
  ∃ m ∈ s.network, m.agent = a ∧ m.nonce = s.highestNonce a

/-- The gateway listens to the agent, or has received something of it. -/
def Waits (a : Agent) (s : State Agent) : Prop :=
  s.state a = .listen ∨ s.state a = .parseSig ∧ ∃ m ∈ s.network, m.agent = a

/-- The agent could be refused, by a score or by a token that is over. -/
def Refusable (c : Constants) (a : Agent) (s : State Agent) : Prop :=
  ∃ sat ∈ s.satRegistry, sat.agent = a ∧ (0 < c.minSafetyScore ∨ sat.exp ≤ s.clock)

/-- A score could be enough. -/
def Passable (c : Constants) (s : State Agent) : Prop :=
  c.minSafetyScore ≤ 100 ∨ s.byzantineAc = true ∨ s.byzantineServer = true

/-- Where an agent can be. -/
inductive Placed (c : Constants) (a : Agent) (s : State Agent) : Prop
  | fresh (h : Waits a s) (hzero : s.highestNonce a = 0)
  | refused (h : Waits a s) (hheard : Heard a s) (hrefusable : Refusable c a s)
  | parsed (h : s.state a = .verifySat) (hheard : Heard a s)
  | verified (h : s.state a = .evaluateMama) (hheard : Heard a s)
      (htoken : ∃ sat ∈ s.satRegistry, sat.agent = a)
  | letIn (h : s.state a = .established) (hheard : Heard a s)
      (htoken : ∃ sat ∈ s.satRegistry, sat.agent = a) (hpassable : Passable c s)

/-- The agents that are not as at the start. -/
def busy (s : State Agent) : Set Agent := {a | s.state a ≠ .listen ∨ s.highestNonce a ≠ 0}

/-- What a reachable state is like. -/
structure Legal (c : Constants) (s : State Agent) : Prop where
  bounds : s.InBounds c
  network : s.network.Finite
  satRegistry : s.satRegistry.Finite
  tokens : ∀ sat ∈ s.satRegistry, sat.active = true ∧ 1 ≤ sat.exp ∧ sat.exp ≤ c.maxTime
  busy : (busy s).Finite
  agents : ∀ a, Placed c a s

/-! ## Reachable states are legal -/

theorem Placed.ne_corrupted (ha : Placed c a s) : s.state a ≠ .corrupted := by
  intro hcorrupted
  cases ha with
  | fresh h _ | refused h _ _ =>
    rcases h with h | ⟨h, -⟩
    · cases hcorrupted.symm.trans h
    · cases hcorrupted.symm.trans h
  | parsed h _ | verified h _ _ | letIn h _ _ _ => cases hcorrupted.symm.trans h

/-- What only grows keeps an agent in its place. -/
theorem Placed.later (ha : Placed c a s) (hlater : s.Later s')
    (hac : s.byzantineAc = true → s'.byzantineAc = true) (hstate : s'.state a = s.state a)
    (hnonce : s'.highestNonce a = s.highestNonce a) : Placed c a s' := by
  have hwaits : Waits a s → Waits a s' := by
    rintro (h | ⟨h, m, hm, hagent⟩)
    · exact Or.inl (hstate.trans h)
    · exact Or.inr ⟨hstate.trans h, m, hlater.network hm, hagent⟩
  have hheard : Heard a s → Heard a s' := by
    rintro ⟨m, hm, hagent, h⟩
    exact ⟨m, hlater.network hm, hagent, h.trans hnonce.symm⟩
  have htoken : (∃ sat ∈ s.satRegistry, sat.agent = a) → ∃ sat ∈ s'.satRegistry, sat.agent = a := by
    rintro ⟨sat, hsat, hagent⟩
    exact ⟨sat, hlater.satRegistry hsat, hagent⟩
  cases ha with
  | fresh h hzero => exact .fresh (hwaits h) (hnonce.trans hzero)
  | refused h hh hrefusable =>
    obtain ⟨sat, hsat, hagent, hover⟩ := hrefusable
    exact .refused (hwaits h) (hheard hh) ⟨sat, hlater.satRegistry hsat, hagent,
      hover.imp_right fun h => le_trans h hlater.clock⟩
  | parsed h hh => exact .parsed (hstate.trans h) (hheard hh)
  | verified h hh ht => exact .verified (hstate.trans h) (hheard hh) (htoken ht)
  | letIn h hh ht hpassable =>
    exact .letIn (hstate.trans h) (hheard hh) (htoken ht)
      (hpassable.imp_right (Or.imp hac hlater.compromised))

/-- How the gateway moves an agent: its next state, and its counter. -/
inductive Moves (c : Constants) (a : Agent) (s : State Agent) : GatewayState → ℤ → Prop
  | receive (m : Message Agent) (hm : m ∈ s.network ∧ m.agent = a)
      (h : s.state a = .listen ∨ s.state a = .corrupted) : Moves c a s .parseSig (s.highestNonce a)
  | parse (m : Message Agent) (hm : m ∈ s.network ∧ m.agent = a) : Moves c a s .verifySat m.nonce
  | drop (h : s.state a = .parseSig) : Moves c a s .listen (s.highestNonce a)
  | verify (sat : Sat Agent) (hsat : sat ∈ s.satRegistry ∧ sat.agent = a)
      (h : s.state a = .verifySat) : Moves c a s .evaluateMama (s.highestNonce a)
  | expire (sat : Sat Agent) (hsat : sat ∈ s.satRegistry ∧ sat.agent = a)
      (h : s.state a = .verifySat) (hover : sat.exp ≤ s.clock) :
      Moves c a s .listen (s.highestNonce a)
  | evaluate (h : s.state a = .evaluateMama) (hpassable : Passable c s) :
      Moves c a s .established (s.highestNonce a)
  | reject (h : s.state a = .evaluateMama) (hscore : 0 < c.minSafetyScore) :
      Moves c a s .listen (s.highestNonce a)

variable [DecidableEq Agent]

/-- An agent is moved. -/
def State.move (s : State Agent) (a : Agent) (g : GatewayState) (nonce : ℤ) : State Agent :=
  { s with
    state := Function.update s.state a g
    highestNonce := Function.update s.highestNonce a nonce }

@[simp] theorem move_state (s : State Agent) (a : Agent) (g : GatewayState) (nonce : ℤ) :
    (s.move a g nonce).state a = g := Function.update_self ..

@[simp] theorem move_highestNonce (s : State Agent) (a : Agent) (g : GatewayState) (nonce : ℤ) :
    (s.move a g nonce).highestNonce a = nonce := Function.update_self ..

/-- A move that leaves the counter alone. -/
theorem move_eq (s : State Agent) (a : Agent) (g : GatewayState) :
    s.move a g (s.highestNonce a) = { s with state := Function.update s.state a g } := by
  simp only [State.move, Function.update_eq_self]

theorem move_of_ne {b : Agent} (hab : b ≠ a) (s : State Agent) (g : GatewayState) (nonce : ℤ) :
    (s.move a g nonce).state b = s.state b ∧
      (s.move a g nonce).highestNonce b = s.highestNonce b :=
  ⟨Function.update_of_ne hab .., Function.update_of_ne hab ..⟩

/-- **What a step does.** It asks for a token, or takes a shared action, or
moves one agent. -/
theorem next_cases (h : Next c i s s') :
    (∃ sat : Sat Agent, sat.active = true ∧
      s' = { s with satRegistry := s.satRegistry ∪ {sat} }) ∨
    (∃ action : CommonAction Agent, action.Next c s s') ∨
      ∃ a g nonce, Moves c a s g nonce ∧ s' = s.move a g nonce := by
  cases i with
  | requestSat a exp =>
    obtain ⟨-, rfl⟩ := h
    exact Or.inl ⟨_, rfl, rfl⟩
  | common action => exact Or.inr (Or.inl ⟨action, h⟩)
  | receiveKnk m =>
    obtain ⟨-, hm, hstate, rfl⟩ := h
    exact Or.inr (Or.inr ⟨m.agent, _, _, .receive m ⟨hm, rfl⟩ hstate, (move_eq ..).symm⟩)
  | parseSig a m =>
    obtain ⟨-, hstate, hm, rfl⟩ := h
    right; right
    split
    · exact ⟨a, _, _, .parse m hm, rfl⟩
    · exact ⟨a, _, _, .drop hstate, (move_eq ..).symm⟩
  | verifySat a m sat =>
    obtain ⟨-, hstate, -, hsat, rfl⟩ := h
    right; right
    split
    · exact ⟨a, _, _, .verify sat hsat hstate, (move_eq ..).symm⟩
    · next hlate =>
      have hover : sat.exp ≤ s.clock := not_lt.1 fun h => hlate (Or.inl h)
      exact ⟨a, _, _, .expire sat hsat hstate hover, (move_eq ..).symm⟩
  | evaluateMama a score =>
    obtain ⟨-, hstate, hscore, rfl⟩ := h
    right; right
    split
    · next henough =>
      exact ⟨a, _, _, .evaluate hstate (henough.imp_left fun h => le_trans h hscore.2),
        (move_eq ..).symm⟩
    · next hlow =>
      have hbelow : score < c.minSafetyScore := not_le.1 fun h => hlow (Or.inl h)
      exact ⟨a, _, _, .reject hstate (lt_of_le_of_lt hscore.1 hbelow),
        (move_eq ..).symm⟩

omit [DecidableEq Agent] in
/-- Where an agent waits, it is fresh or was refused. -/
theorem Placed.waiting (ha : Placed c a s) (h : s.state a = .listen ∨ s.state a = .parseSig) :
    s.highestNonce a = 0 ∨ Heard a s ∧ Refusable c a s := by
  cases ha with
  | fresh _ hzero => exact Or.inl hzero
  | refused _ hheard hrefusable => exact Or.inr ⟨hheard, hrefusable⟩
  | parsed h' _ | verified h' _ _ | letIn h' _ _ _ =>
    rcases h with h | h
    · cases h'.symm.trans h
    · cases h'.symm.trans h

omit [DecidableEq Agent] in
theorem Waits.ne_established (h : Waits a s) : s.state a ≠ .established := by
  rcases h with h | ⟨h, -⟩
  · simp [h]
  · simp [h]

omit [DecidableEq Agent] in
theorem Waits.not_parsed (h : Waits a s) :
    ¬ (s.state a = .verifySat ∨ Verified (s.state a)) := by
  rcases h with h | ⟨h, -⟩
  · simp [h, Verified]
  · simp [h, Verified]

omit [DecidableEq Agent] in
/-- Past PARSE_SIG it was heard, -/
theorem Placed.heard (ha : Placed c a s)
    (h : s.state a = .verifySat ∨ Verified (s.state a)) : Heard a s := by
  cases ha with
  | fresh hwaits _ | refused hwaits _ _ => exact absurd h hwaits.not_parsed
  | parsed _ hheard | verified _ hheard _ | letIn _ hheard _ _ => exact hheard

omit [DecidableEq Agent] in
/-- and past VERIFY_SAT it has a token. -/
theorem Placed.token (ha : Placed c a s) (h : Verified (s.state a)) :
    ∃ sat ∈ s.satRegistry, sat.agent = a := by
  cases ha with
  | fresh hwaits _ | refused hwaits _ _ => exact absurd (Or.inr h) hwaits.not_parsed
  | parsed hparsed _ =>
    rw [hparsed] at h
    rcases h with h | h <;> cases h
  | verified _ _ htoken | letIn _ _ htoken _ => exact htoken

omit [DecidableEq Agent] in
/-- An established one was let in by a score. -/
theorem Placed.passable (ha : Placed c a s) (h : s.state a = .established) : Passable c s := by
  cases ha with
  | fresh hwaits _ | refused hwaits _ _ =>
    exact absurd (Or.inr (Or.inr h)) hwaits.not_parsed
  | parsed hstate _ | verified hstate _ _ => cases hstate.symm.trans h
  | letIn _ _ _ hpassable => exact hpassable

theorem Heard.move (h : Heard a s) (g : GatewayState) :
    Heard a (s.move a g (s.highestNonce a)) := by
  obtain ⟨m, hm, hagent, hheard⟩ := h
  exact ⟨m, hm, hagent, hheard.trans (move_highestNonce ..).symm⟩

/-- **A move leads from place to place.** -/
theorem Placed.move (ha : Placed c a s) {g : GatewayState} {nonce : ℤ} (h : Moves c a s g nonce) :
    Placed c a (s.move a g nonce) := by
  have hstate := move_state s a g nonce
  -- who waits again has what it had
  have hwait : ∀ g', Waits a (s.move a g' (s.highestNonce a)) →
      s.state a = .listen ∨ s.state a = .parseSig →
      Placed c a (s.move a g' (s.highestNonce a)) := by
    intro g' hwaits hwaited
    rcases ha.waiting hwaited with hzero | ⟨hheard, hrefusable⟩
    · exact .fresh hwaits ((move_highestNonce ..).trans hzero)
    · exact .refused hwaits (hheard.move g') hrefusable
  cases h with
  | receive m hm h =>
    exact hwait .parseSig (Or.inr ⟨hstate, m, hm⟩) (Or.inl (h.resolve_right ha.ne_corrupted))
  | parse m hm => exact .parsed hstate ⟨m, hm.1, hm.2, (move_highestNonce ..).symm⟩
  | drop h => exact hwait .listen (Or.inl hstate) (Or.inr h)
  | verify sat hsat h => exact .verified hstate ((ha.heard (Or.inl h)).move _) ⟨sat, hsat⟩
  | expire sat hsat h hover =>
    exact .refused (Or.inl hstate) ((ha.heard (Or.inl h)).move _)
      ⟨sat, hsat.1, hsat.2, Or.inr hover⟩
  | evaluate h hpassable =>
    exact .letIn hstate ((ha.heard (Or.inr (Or.inl h))).move _) (ha.token (Or.inl h)) hpassable
  | reject h hscore =>
    obtain ⟨sat, hsat, hagent⟩ := ha.token (Or.inl h)
    exact .refused (Or.inl hstate) ((ha.heard (Or.inr (Or.inl h))).move _)
      ⟨sat, hsat, hagent, Or.inl hscore⟩

/-- **Every step keeps a reachable state legal.** -/
theorem Legal.step (hs : Legal c s) (hreach : (spec c).Reachable s) (h : Next c i s s') :
    Legal c s' := by
  have hgrounded := grounded_of_reachable (hreach.step i h)
  have hbounds := hgrounded.bounds
  have hexps : ∀ sat ∈ s'.satRegistry, 1 ≤ sat.exp ∧ sat.exp ≤ c.maxTime := fun sat hsat =>
    hgrounded.exps ⟨sat, hsat, rfl⟩
  rcases next_cases h with ⟨sat, hactive, rfl⟩ | ⟨action, hnext⟩ | ⟨a, g, nonce, hmoves, rfl⟩
  · refine ⟨hbounds, hs.network, hs.satRegistry.union (Set.finite_singleton sat), ?_, hs.busy,
      fun a => ?_⟩
    · intro sat' hsat'
      refine ⟨?_, hexps sat' hsat'⟩
      rcases hsat' with hsat' | rfl
      · exact (hs.tokens sat' hsat').1
      · exact hactive
    · exact (hs.agents a).later ⟨Set.subset_union_left, Set.Subset.rfl, le_rfl, id⟩ id rfl rfl
  · have hregistry := CommonAction.satRegistry_eq hnext
    have hstate : ∀ a, s'.state a = s.state a := fun a =>
      CommonAction.state_eq hnext (hs.agents a).ne_corrupted
    have hnonce : ∀ a, s'.highestNonce a = s.highestNonce a := fun a =>
      (CommonAction.agent_cases hnext a).2
    refine ⟨hbounds, ?_, by rw [hregistry]; exact hs.satRegistry,
      by rw [hregistry]; exact hs.tokens, hs.busy.subset fun a ha => ?_, fun a => ?_⟩
    · rcases CommonAction.network_grows hnext with heq | ⟨m, heq⟩
      · rw [heq]
        exact hs.network
      · rw [heq]
        exact hs.network.union (Set.finite_singleton m)
    · exact ha.imp (fun h => hstate a ▸ h) fun h => hnonce a ▸ h
    · exact (hs.agents a).later (CommonAction.later hnext) (CommonAction.byzantineAc hnext)
        (hstate a) (hnonce a)
  · refine ⟨hbounds, hs.network, hs.satRegistry, hs.tokens,
      (hs.busy.insert a).subset fun b hb => ?_, fun b => ?_⟩
    · by_cases hab : b = a
      · exact Or.inl hab
      · obtain ⟨hstate, hnonce⟩ := move_of_ne hab s g nonce
        exact Or.inr (hb.imp (fun h => hstate ▸ h) fun h => hnonce ▸ h)
    · by_cases hab : b = a
      · subst hab
        exact (hs.agents b).move hmoves
      · obtain ⟨hstate, hnonce⟩ := move_of_ne hab s g nonce
        exact (hs.agents b).later ⟨Set.Subset.rfl, Set.Subset.rfl, le_rfl, id⟩ id hstate hnonce

omit [DecidableEq Agent] in
theorem legal_init : Legal c (Vars.init : State Agent) where
  bounds := Vars.InBounds.init
  network := Set.finite_empty
  satRegistry := Set.finite_empty
  tokens _ hsat := hsat.elim
  busy := Set.finite_empty.subset fun _ ha => ha.elim (fun h => h rfl) fun h => h rfl
  agents _ := .fresh (Or.inl rfl) rfl

theorem legal_of_reachable (h : (spec c).Reachable s) : Legal c s := by
  refine (h.invariant (I := fun s => (spec c).Reachable s ∧ Legal c s) ?_ ?_).2
  · rintro s rfl
    exact ⟨System.Reachable.init rfl, legal_init⟩
  · rintro i s s' ⟨hreach, hs⟩ hnext
    exact ⟨hreach.step i hnext, hs.step hreach hnext⟩

/-! ## Legal states are reachable -/

variable (s) in
/-- One score for each agent: enough, if any is, for whom is let in. -/
def scoreOf (a : Agent) : ℤ := if s.state a = .established then 100 else 0

variable (s) in
/-- The actions on the way to a state: the adversary does no more than it
must, and an agent has one score. -/
def Needed : Action Agent → Prop
  | .common .compromiseServer => s.byzantineServer = true
  | .common .compromiseAc => s.byzantineAc = true
  | .common .togglePartition => s.networkPartition = true
  | .common (.maliciousReplay _) | .common (.undefinedBehaviorHandling _) => False
  | .evaluateMama a score => score = scoreOf s a
  | _ => True

variable (c s) in
/-- The True model, with no other actions. -/
def wayTo : System (Action Agent) (State Agent) where
  Init v := v = Vars.init
  Next i v v' := Needed s i ∧ Next c i v v'

omit [DecidableEq Agent] in
/-- The state with its agents at other places. -/
def placing (v : State Agent) (who : Agent → GatewayState × ℤ) : State Agent :=
  { v with
    state := Prod.fst ∘ who
    highestNonce := Prod.snd ∘ who }

theorem placing_update (v : State Agent) (who : Agent → GatewayState × ℤ) (a : Agent)
    (g : GatewayState) (n : ℤ) :
    placing v (Function.update who a (g, n)) = (placing v who).move a g n := by
  simp only [placing, State.move, Function.comp_update]

variable {v : State Agent} {who : Agent → GatewayState × ℤ} {g : GatewayState} {n : ℤ}
  {m : Message Agent} {sat : Sat Agent}

/-- A step that moves an agent, and leaves its counter alone. -/
theorem reachable_moved (h : (wayTo c s).Reachable (placing v who)) (hwho : who a = (g, n))
    (i : Action Agent) (hneeded : Needed s i) {g' : GatewayState} (hnext : Next c i (placing v who)
      { placing v who with state := Function.update (placing v who).state a g' }) :
    (wayTo c s).Reachable (placing v (Function.update who a (g', n))) := by
  have hn : (placing v who).highestNonce a = n := congrArg Prod.snd hwho
  rw [placing_update, ← hn, move_eq]
  exact h.step i ⟨hneeded, hnext⟩

/-- The gateway receives something of an agent. -/
theorem reachable_receive (h : (wayTo c s).Reachable (placing v who))
    (hpartition : v.networkPartition = false) (hwho : who m.agent = (.listen, n))
    (hm : m ∈ v.network) :
    (wayTo c s).Reachable (placing v (Function.update who m.agent (.parseSig, n))) :=
  reachable_moved h hwho (.receiveKnk m) trivial
    ⟨hpartition, hm, Or.inl (congrArg Prod.fst hwho), rfl⟩

/-- It accepts an agent's first message. -/
theorem reachable_parse (h : (wayTo c s).Reachable (placing v who))
    (hpartition : v.networkPartition = false) (hwho : who m.agent = (.listen, 0))
    (hm : m ∈ v.network) (hpositive : 1 ≤ m.nonce) :
    (wayTo c s).Reachable (placing v (Function.update who m.agent (.verifySat, m.nonce))) := by
  have hreceived := reachable_receive h hpartition hwho hm
  let who' := Function.update who m.agent (.parseSig, 0)
  have hwho' : who' m.agent = (.parseSig, 0) := Function.update_self ..
  have hnew : (placing v who').highestNonce m.agent < m.nonce := by
    have hzero : (placing v who').highestNonce m.agent = 0 := congrArg Prod.snd hwho'
    omega
  have hparsed := hreceived.step (.parseSig m.agent m)
    ⟨trivial, hpartition, congrArg Prod.fst hwho', ⟨hm, rfl⟩, (if_pos (Or.inl hnew)).symm⟩
  have hmoved : placing v (Function.update who m.agent (.verifySat, m.nonce)) =
      (placing v who').move m.agent .verifySat m.nonce := by
    rw [← placing_update, Function.update_idem]
  rw [hmoved]
  exact hparsed

/-- It takes an agent with a token on. -/
theorem reachable_verify (h : (wayTo c s).Reachable (placing v who))
    (hpartition : v.networkPartition = false) (hwho : who a = (.verifySat, n))
    (hm : m ∈ v.network ∧ m.agent = a) (hsat : sat ∈ v.satRegistry ∧ sat.agent = a)
    (hvalid : v.clock < sat.exp) :
    (wayTo c s).Reachable (placing v (Function.update who a (.evaluateMama, n))) :=
  reachable_moved h hwho (.verifySat a m sat) trivial
    ⟨hpartition, congrArg Prod.fst hwho, hm, hsat, (if_pos (Or.inl hvalid)).symm⟩

/-- It refuses one whose token is over, -/
theorem reachable_expire (h : (wayTo c s).Reachable (placing v who))
    (hpartition : v.networkPartition = false) (hwho : who a = (.verifySat, n))
    (hm : m ∈ v.network ∧ m.agent = a) (hsat : sat ∈ v.satRegistry ∧ sat.agent = a)
    (hover : sat.exp ≤ v.clock) (hhonest : v.byzantineServer = false) :
    (wayTo c s).Reachable (placing v (Function.update who a (.listen, n))) := by
  have hrefused : ¬ (v.clock < sat.exp ∨ v.byzantineServer = true) := by
    rw [hhonest]
    rintro (hvalid | hbyzantine)
    · omega
    · cases hbyzantine
  exact reachable_moved h hwho (.verifySat a m sat) trivial
    ⟨hpartition, congrArg Prod.fst hwho, hm, hsat, (if_neg hrefused).symm⟩

/-- or whose score is too low, -/
theorem reachable_reject (h : (wayTo c s).Reachable (placing v who))
    (hpartition : v.networkPartition = false) (hwho : who a = (.evaluateMama, n))
    (hstate : s.state a ≠ .established) (hscore : 0 < c.minSafetyScore)
    (hserver : v.byzantineServer = false) (hac : v.byzantineAc = false) :
    (wayTo c s).Reachable (placing v (Function.update who a (.listen, n))) := by
  have hrefused : ¬ (c.minSafetyScore ≤ 0 ∨ v.byzantineAc = true ∨ v.byzantineServer = true) := by
    rw [hserver, hac]
    simp [hscore]
  exact reachable_moved h hwho (.evaluateMama a 0) (if_neg hstate).symm
    ⟨hpartition, congrArg Prod.fst hwho, by decide, (if_neg hrefused).symm⟩

/-- and lets in one whose score is enough. -/
theorem reachable_evaluate (h : (wayTo c s).Reachable (placing v who))
    (hpartition : v.networkPartition = false) (hwho : who a = (.evaluateMama, n))
    (hstate : s.state a = .established) (hpassable : Passable c v) :
    (wayTo c s).Reachable (placing v (Function.update who a (.established, n))) :=
  reachable_moved h hwho (.evaluateMama a 100) (if_pos hstate).symm
    ⟨hpartition, congrArg Prod.fst hwho, by decide, (if_pos hpassable).symm⟩

/-! ## The way there -/

variable (c s) in
/-- What an agent has when the clock first ticks: it went as far as its
messages and its tokens let it, or was refused by its score. -/
def early (a : Agent) : GatewayState × ℤ :=
  match s.state a with
  | .verifySat => (.verifySat, s.highestNonce a)
  | .evaluateMama | .established => (.evaluateMama, s.highestNonce a)
  | .listen | .parseSig | .corrupted =>
    if s.highestNonce a ≠ 0 ∧ c.minSafetyScore ≤ 0 then (.verifySat, s.highestNonce a)
    else (.listen, s.highestNonce a)

variable (s) in
/-- What it has when the clock has come to its reading: whose token is over
was refused. -/
def late (a : Agent) : GatewayState × ℤ :=
  match s.state a with
  | .verifySat => (.verifySat, s.highestNonce a)
  | .evaluateMama | .established => (.evaluateMama, s.highestNonce a)
  | .listen | .parseSig | .corrupted => (.listen, s.highestNonce a)

variable (s) in
/-- The state before the adversary takes anyone. -/
def honest (now : ℤ) (registry : Set (Sat Agent)) : State Agent :=
  { s with
    satRegistry := registry
    clock := now
    byzantineServer := false
    byzantineAc := false
    networkPartition := false }

variable (c s) in
theorem takes : Takes c (wayTo c s) (id : State Agent → State Agent) fun action =>
    Needed s (.common action) :=
  fun action _ _ hneeded hnext hreach => hreach.step (.common action) ⟨hneeded, hnext⟩

/-- All messages are sent and all tokens asked for. -/
theorem reachable_first (hs : Legal c s) :
    (wayTo c s).Reachable (placing (honest s 0 s.satRegistry) fun _ => (.listen, 0)) := by
  have hinit : (wayTo c s).Reachable (Vars.init : State Agent) := System.Reachable.init rfl
  have hsent := (takes c s).sent (fun _ _ => trivial) hs.network hs.bounds.nonces hinit
  have hnetwork : (∅ : Set (Message Agent)) ∪ s.network = s.network := Set.empty_union _
  dsimp only [Vars.init, id] at hsent
  rw [hnetwork] at hsent
  have hrequested : (wayTo c s).Reachable
      (placing (honest s 0 (∅ ∪ s.satRegistry)) fun _ => (.listen, 0)) := by
    refine of_finite (P := fun registry => (wayTo c s).Reachable
      (placing (honest s 0 registry) fun _ => (.listen, 0))) hs.satRegistry hsent ?_
    rintro ⟨agent, exp, active⟩ hsat registry h
    obtain ⟨rfl, hexp⟩ := hs.tokens _ hsat
    exact h.step (.requestSat agent exp) ⟨trivial, hexp, rfl⟩
  rwa [Set.empty_union] at hrequested

omit [DecidableEq Agent] in
theorem early_of_waits (h : Waits a s) : early c s a =
    if s.highestNonce a ≠ 0 ∧ c.minSafetyScore ≤ 0 then (.verifySat, s.highestNonce a)
    else (.listen, s.highestNonce a) := by
  rcases h with h | ⟨h, -⟩
  · simp only [early, h]
  · simp only [early, h]

omit [DecidableEq Agent] in
theorem late_of_waits (h : Waits a s) : late s a = (.listen, s.highestNonce a) := by
  rcases h with h | ⟨h, -⟩
  · simp only [late, h]
  · simp only [late, h]

omit [DecidableEq Agent] in
/-- Who is not busy is as at the start. -/
theorem idle_of_notMem (h : a ∉ busy s) : s.state a = .listen ∧ s.highestNonce a = 0 := by
  simpa [busy] using h

/-- Whose message is there is heard, -/
theorem reachable_heard (hs : Legal c s)
    (h : (wayTo c s).Reachable (placing (honest s 0 s.satRegistry) who))
    (hwho : who a = (.listen, 0)) (hheard : Heard a s) :
    (wayTo c s).Reachable (placing (honest s 0 s.satRegistry)
      (Function.update who a (.verifySat, s.highestNonce a))) := by
  obtain ⟨m, hm, rfl, hnonce⟩ := hheard
  rw [← hnonce]
  exact reachable_parse h rfl hwho hm (hs.bounds.nonces m hm).1

/-- and with a token comes to its evaluation, as no token is over yet. -/
theorem reachable_verified (hs : Legal c s)
    (h : (wayTo c s).Reachable (placing (honest s 0 s.satRegistry) who))
    (hwho : who a = (.listen, 0)) (hheard : Heard a s)
    (htoken : ∃ sat ∈ s.satRegistry, sat.agent = a) :
    (wayTo c s).Reachable (placing (honest s 0 s.satRegistry)
      (Function.update who a (.evaluateMama, s.highestNonce a))) := by
  obtain ⟨m, hm, hmAgent, -⟩ := id hheard
  obtain ⟨sat, hsat, hagent⟩ := htoken
  have hexp := (hs.tokens sat hsat).2.1
  have hvalid : (honest s 0 s.satRegistry).clock < sat.exp := show (0 : ℤ) < sat.exp by omega
  have hverified := reachable_verify (reachable_heard hs h hwho hheard) rfl
    (Function.update_self ..) ⟨hm, hmAgent⟩ ⟨hsat, hagent⟩ hvalid
  rwa [Function.update_idem] at hverified

/-- **Before the clock ticks**, everyone goes as far as it can. -/
theorem reachable_early (hs : Legal c s) :
    (wayTo c s).Reachable (placing (honest s 0 s.satRegistry) (early c s)) := by
  refine of_agentwise (P := fun who => (wayTo c s).Reachable
    (placing (honest s 0 s.satRegistry) who)) hs.busy ?_ (reachable_first hs) ?_
  · intro a hidle
    obtain ⟨hlisten, hzero⟩ := idle_of_notMem hidle
    simp [early, hlisten, hzero]
  · intro a _ who hwho h
    cases hs.agents a with
    | fresh hwaits hzero =>
      have hstays : early c s a = who a := by
        rw [early_of_waits hwaits, hwho, hzero]
        simp
      rw [hstays, Function.update_eq_self]
      exact h
    | refused hwaits hheard hrefusable =>
      obtain ⟨sat, hsat, hagent, -⟩ := hrefusable
      rw [early_of_waits hwaits]
      split
      · exact reachable_heard hs h hwho hheard
      · next hscored =>
        obtain ⟨m, hm, -, hnonce⟩ := id hheard
        have hpositive := (hs.bounds.nonces m hm).1
        have hscore : 0 < c.minSafetyScore := by
          by_contra hlow
          exact hscored ⟨by omega, by omega⟩
        have hverified := reachable_verified hs h hwho hheard ⟨sat, hsat, hagent⟩
        have hrejected := reachable_reject hverified rfl (Function.update_self ..)
          hwaits.ne_established hscore rfl rfl
        rwa [Function.update_idem] at hrejected
    | parsed hstate hheard =>
      have hearly : early c s a = (.verifySat, s.highestNonce a) := by simp only [early, hstate]
      rw [hearly]
      exact reachable_heard hs h hwho hheard
    | verified hstate hheard htoken | letIn hstate hheard htoken _ =>
      have hearly : early c s a = (.evaluateMama, s.highestNonce a) := by simp only [early, hstate]
      rw [hearly]
      exact reachable_verified hs h hwho hheard htoken

/-- **When the clock has come to its reading**, whose token is over is
refused. -/
theorem reachable_late (hs : Legal c s) :
    (wayTo c s).Reachable (placing (honest s s.clock s.satRegistry) (late s)) := by
  have hticked : (wayTo c s).Reachable (placing (honest s s.clock s.satRegistry) (early c s)) := by
    obtain ⟨k, hk⟩ := Int.eq_ofNat_of_zero_le hs.bounds.clock
    have hbound := hs.bounds.ticked
    have htime : k = 0 ∨ (0 : ℤ) + k ≤ c.maxTime := by omega
    have hlater := (takes c s).ticked (v := placing (honest s 0 s.satRegistry) (early c s))
      trivial (reachable_early hs) k htime
    have hclock : (0 : ℤ) + k = s.clock := by omega
    dsimp only [placing, honest, id] at hlater
    rw [hclock] at hlater
    exact hlater
  refine of_agentwise (P := fun who => (wayTo c s).Reachable
    (placing (honest s s.clock s.satRegistry) who)) hs.busy ?_ hticked ?_
  · intro a hidle
    obtain ⟨hlisten, hzero⟩ := idle_of_notMem hidle
    simp [early, late, hlisten, hzero]
  · intro a _ who hwho h
    by_cases hsame : late s a = early c s a
    · rw [hsame, ← hwho, Function.update_eq_self]
      exact h
    · -- only a refused agent is not there yet, and no score refused it
      cases hs.agents a with
      | fresh hwaits hzero =>
        refine absurd ?_ hsame
        rw [late_of_waits hwaits, early_of_waits hwaits, hzero]
        simp
      | refused hwaits hheard hrefusable =>
        obtain ⟨sat, hsat, hagent, hover⟩ := hrefusable
        obtain ⟨m, hm, hmAgent, -⟩ := id hheard
        rw [late_of_waits hwaits, early_of_waits hwaits] at hsame
        rw [early_of_waits hwaits] at hwho
        split at hwho
        · next hunscored =>
          have hexpired : sat.exp ≤ s.clock := hover.resolve_left (by omega)
          rw [late_of_waits hwaits]
          exact reachable_expire h rfl hwho ⟨hm, hmAgent⟩ ⟨hsat, hagent⟩ hexpired rfl
        · next hscored =>
          rw [if_neg hscored] at hsame
          exact absurd rfl hsame
      | parsed hstate _ | verified hstate _ _ | letIn hstate _ _ _ =>
        simp only [early, late, hstate, not_true_eq_false] at hsame

/-- **A legal state is where its way leads.** -/
theorem Legal.onTheWay (hs : Legal c s) : (wayTo c s).Reachable s := by
  have hcompromised := (takes c s).compromised rfl rfl s.byzantineServer s.byzantineAc id id
    (reachable_late hs)
  have hplaced : (wayTo c s).Reachable (placing { s with networkPartition := false }
      fun a => (s.state a, s.highestNonce a)) := by
    refine of_agentwise (P := fun who => (wayTo c s).Reachable
      (placing { s with networkPartition := false } who)) hs.busy ?_ hcompromised ?_
    · intro a hidle
      obtain ⟨hlisten, -⟩ := idle_of_notMem hidle
      simp only [late, hlisten]
    · intro a _ who hwho h
      cases hs.agents a with
      | fresh hwaits _ | refused hwaits _ _ =>
        rw [late_of_waits hwaits] at hwho
        rcases hwaits with hstate | ⟨hstate, m, hm, rfl⟩
        · rw [hstate, ← hwho, Function.update_eq_self]
          exact h
        · rw [hstate]
          exact reachable_receive h rfl hwho hm
      | parsed hstate _ | verified hstate _ _ =>
        simp only [late, hstate] at hwho
        rw [hstate, ← hwho, Function.update_eq_self]
        exact h
      | letIn hstate _ _ hpassable =>
        simp only [late, hstate] at hwho
        rw [hstate]
        exact reachable_evaluate h rfl hwho hstate hpassable
  -- the partition comes last
  exact (takes c s).partitioned (v := { s with networkPartition := false }) rfl s.networkPartition
    id hplaced

/-- **Every legal state is reachable.** -/
theorem Legal.reachable (hs : Legal c s) : (spec c).Reachable s := by
  refine hs.onTheWay.invariant (I := (spec c).Reachable) ?_ ?_
  · intro v hinit
    exact System.Reachable.init hinit
  · rintro i v v' hreach ⟨-, hnext⟩
    exact hreach.step i hnext

variable (c s) in
/-- **The reachable states** of the True model, for any agents and any
bounds, are the legal ones. -/
theorem reachable_iff_legal : (spec c).Reachable s ↔ Legal c s :=
  ⟨legal_of_reachable, Legal.reachable⟩

end TrueFormal

end ThreatModel

end NhpSba
