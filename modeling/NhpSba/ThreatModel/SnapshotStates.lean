import NhpSba.ThreatModel.LetIn
import NhpSba.ThreatModel.SharedActions
import NhpSba.ThreatModel.Snapshot
/-!
# Threat model — the reachable states of the Snapshot model

A state is reachable exactly where it is `Legal` (`reachable_iff`): finitely
many messages and tokens within the bounds, and each agent either as it was
at the start, or let in at its snapshot by a message and a token that are
still there. To get there, the messages are sent first, and at each reading
of the clock the tokens issued then are asked for, and the agents whose
snapshot it is are let in.
-/

namespace NhpSba

namespace ThreatModel

variable {Agent : Type*} {c : Constants}

namespace Deterministic

variable {i : Action Agent} {s s' : State Agent}

/-- A token could be asked for by the reading of the clock. -/
structure Issued (c : Constants) (now : ℤ) (sat : Sat Agent) : Prop where
  active : sat.active = true
  iat : 0 ≤ sat.iat ∧ sat.iat ≤ now
  exp : sat.iat < sat.exp ∧ sat.exp ≤ c.maxTime

theorem Issued.later {now later : ℤ} {sat : Sat Agent} (h : Issued c now sat) (hle : now ≤ later) :
    Issued c later sat :=
  ⟨h.active, ⟨h.iat.1, le_trans h.iat.2 hle⟩, h.exp⟩

variable [DecidableEq Agent]

/-- The registry and the network grow by one at a time. -/
theorem next_grows (h : Next c i s s') :
    (s'.satRegistry = s.satRegistry ∨
      ∃ sat, Issued c s.clock sat ∧ s'.satRegistry = s.satRegistry ∪ {sat}) ∧
    (s'.network = s.network ∨ ∃ m, s'.network = s.network ∪ {m}) := by
  cases i with
  | requestSat a iat exp =>
    obtain ⟨hiat, hexp, -, rfl⟩ := h
    have hissued : Issued c s.clock { agent := a, iat, exp, active := true } :=
      ⟨rfl, hiat, lt_of_le_of_lt hiat.2 hexp.1, hexp.2⟩
    exact ⟨Or.inr ⟨_, hissued, rfl⟩, Or.inl rfl⟩
  | common action => exact ⟨Or.inl (CommonAction.satRegistry_eq h), CommonAction.network_grows h⟩
  | atomicVerifyAndEvaluate a m sat score =>
    obtain ⟨-, rfl⟩ := h
    split
    · exact ⟨Or.inl rfl, Or.inl rfl⟩
    · exact ⟨Or.inl rfl, Or.inl rfl⟩

theorem next_byzantineAc (h : Next c i s s') (hbyzantine : s.byzantineAc = true) :
    s'.byzantineAc = true := by
  cases i with
  | requestSat a iat exp =>
    obtain ⟨-, -, -, rfl⟩ := h
    exact hbyzantine
  | common action => exact CommonAction.byzantineAc h hbyzantine
  | atomicVerifyAndEvaluate a m sat score =>
    obtain ⟨-, rfl⟩ := h
    split
    · exact hbyzantine
    · exact hbyzantine

end Deterministic

namespace Snapshot

open Deterministic (Sat Action Entry EntryGuard LetsIn Issued)

variable {s s' : State Agent} {a : Agent}

/-! ## Legal states -/

/-- The agent is as it was at the start. -/
structure Outsider (a : Agent) (s : State Agent) : Prop where
  state : s.state a = .listen
  highestNonce : s.highestNonce a = 0
  sessionSnapshot : s.sessionSnapshot a = 0

/-- The agent was let in at its snapshot. -/
structure Insider (c : Constants) (a : Agent) (s : State Agent) : Prop where
  state : s.state a = .established
  heard : ∃ m ∈ s.network, m.agent = a ∧ m.nonce = s.highestNonce a
  token : ∃ sat ∈ s.satRegistry, sat.agent = a ∧ sat.iat ≤ s.sessionSnapshot a ∧
    (s.sessionSnapshot a ≤ sat.exp ∨ s.byzantineServer = true)
  sessionSnapshot : s.sessionSnapshot a ≤ s.clock
  score : c.minSafetyScore ≤ 100 ∨ s.byzantineAc = true ∨ s.byzantineServer = true

/-- What a reachable state is like. -/
structure Legal (c : Constants) (s : State Agent) : Prop where
  clock : 0 ≤ s.clock ∧ (s.clock = 0 ∨ s.clock ≤ c.maxTime)
  network : s.network.Finite
  nonces : ∀ m ∈ s.network, 1 ≤ m.nonce ∧ m.nonce ≤ c.maxNonce
  satRegistry : s.satRegistry.Finite
  tokens : ∀ sat ∈ s.satRegistry, Issued c s.clock sat
  established : {a | s.state a = .established}.Finite
  agents : ∀ a, Outsider a s ∨ Insider c a s

/-! ## Reachable states are legal -/

variable [DecidableEq Agent] {i : Action Agent}

/-- What only grows keeps an agent in. -/
theorem Insider.step (ha : Insider c a s) (h : Next c i s s') (hstate : s'.state a = .established)
    (hnonce : s'.highestNonce a = s.highestNonce a)
    (hsnapshot : s'.sessionSnapshot a = s.sessionSnapshot a) : Insider c a s' := by
  have hlater := (next_toVars h).later
  obtain ⟨m, hm, hagent, hheard⟩ := ha.heard
  obtain ⟨sat, hsat, hsatAgent, hiat, hexp⟩ := ha.token
  rw [← hsnapshot] at hiat hexp
  refine ⟨hstate, ⟨m, hlater.network hm, hagent, hheard.trans hnonce.symm⟩,
    ⟨sat, hlater.satRegistry hsat, hsatAgent, hiat, hexp.imp_right hlater.compromised⟩, ?_, ?_⟩
  · rw [hsnapshot]
    exact le_trans ha.sessionSnapshot hlater.clock
  · exact ha.score.imp_right (Or.imp (Deterministic.next_byzantineAc (next_toVars h))
      hlater.compromised)

/-- **What letting in does.** -/
theorem next_letsIn {m : Message Agent} {sat : Sat Agent} {score : ℤ} (h : Next c i s s')
    (hin : LetsIn c a m sat score i s.toVars) :
    s' = { s with
      highestNonce := Function.update s.highestNonce a m.nonce
      sessionSnapshot := Function.update s.sessionSnapshot a s.clock
      state := Function.update s.state a .established } := by
  obtain ⟨rfl, -, hguard⟩ := hin
  obtain ⟨-, rfl⟩ := h
  exact if_pos hguard

/-- Who is let in is an insider. -/
theorem insider_of_letsIn {m : Message Agent} {sat : Sat Agent} {score : ℤ}
    (hissued : ∀ sat ∈ s.satRegistry, Issued c s.clock sat) (h : Next c i s s')
    (hin : LetsIn c a m sat score i s.toVars) : Insider c a s' := by
  have hlater := (next_toVars h).later
  obtain ⟨-, -, ⟨hm, hagent, -⟩, ⟨hsat, hsatAgent⟩, -, hmost⟩ := hin.2.1
  obtain ⟨-, hwindow, hscore⟩ := hin.2.2
  obtain rfl := next_letsIn h hin
  have hiat := (hissued sat hsat).iat
  constructor
  · exact Function.update_self ..
  · exact ⟨m, hm, hagent, (Function.update_self a m.nonce s.highestNonce).symm⟩
  · refine ⟨sat, hsat, hsatAgent, ?_⟩
    dsimp only
    rw [Function.update_self]
    exact ⟨hiat.2, hwindow.imp_left And.right⟩
  · dsimp only
    rw [Function.update_self]
  · exact hscore.imp_left fun henough => le_trans henough hmost

/-- Who is as at the start is let in, or stays so. -/
theorem Outsider.step (hissued : ∀ sat ∈ s.satRegistry, Issued c s.clock sat) (ha : Outsider a s)
    (h : Next c i s s') : Outsider a s' ∨ Insider c a s' := by
  rcases sessionSnapshot_cases h a with ⟨⟨m, sat, score, hin⟩, -⟩ | hsnapshot
  · exact Or.inr (insider_of_letsIn hissued h hin)
  · rcases Deterministic.next_cases (next_toVars h) a with ⟨m, sat, score, hin⟩ | ⟨hstate, hnonce⟩
    · exact Or.inr (insider_of_letsIn hissued h hin)
    · left
      refine ⟨?_, hnonce.trans ha.highestNonce, hsnapshot.trans ha.sessionSnapshot⟩
      rcases hstate with hkept | hlisten
      · exact hkept.trans ha.state
      · exact hlisten

omit [DecidableEq Agent] in
theorem Legal.settled (hs : Legal c s) : Deterministic.Settled s.toVars := by
  intro a
  rcases hs.agents a with ha | ha
  · exact Or.inr ⟨ha.state, ha.highestNonce⟩
  · exact Or.inl ha.state

omit [DecidableEq Agent] in
theorem Legal.zero_le_sessionSnapshot (hs : Legal c s) (a : Agent) : 0 ≤ s.sessionSnapshot a := by
  rcases hs.agents a with ha | ha
  · exact le_of_eq ha.sessionSnapshot.symm
  · obtain ⟨sat, hsat, -, hiat, -⟩ := ha.token
    exact le_trans (hs.tokens sat hsat).iat.1 hiat

/-- An insider stays one, whoever else is let in. -/
theorem Legal.step_insider (hs : Legal c s) (h : Next c i s s') (ha : Insider c a s) :
    Insider c a s' := by
  have hstays := Deterministic.established_of_next hs.settled (next_toVars h) ha.state
  rcases sessionSnapshot_cases h a with ⟨⟨m, sat, score, hin⟩, -⟩ | hsnapshot
  · exact insider_of_letsIn hs.tokens h hin
  · rcases Deterministic.next_cases (next_toVars h) a with ⟨m, sat, score, hin⟩ | ⟨-, hnonce⟩
    · exact insider_of_letsIn hs.tokens h hin
    · exact ha.step h hstays hnonce hsnapshot

/-- One agent at most is let in. -/
theorem Legal.step_established (hs : Legal c s) (h : Next c i s s') :
    {a | s'.state a = .established}.Finite := by
  rcases Deterministic.next_settled hs.settled (next_toVars h) with
    ⟨b, m, sat, score, hin⟩ | ⟨hstate, -⟩
  · refine (hs.established.insert b).subset fun a ha => ?_
    by_cases hab : a = b
    · exact Or.inl hab
    · rw [next_letsIn h hin] at ha
      exact Or.inr ((Function.update_of_ne hab ..).symm.trans ha)
  · rw [hstate]
    exact hs.established

/-- **Every step keeps a reachable state legal.** -/
theorem Legal.step (hs : Legal c s) (hreach : (spec c).Reachable s) (h : Next c i s s') :
    Legal c s' := by
  have hbounds := (Deterministic.grounded_of_reachable
    (reachable_toVars (hreach.step i h))).bounds
  have hlater := (next_toVars h).later
  obtain ⟨hregistry, hnetwork⟩ := Deterministic.next_grows (next_toVars h)
  refine ⟨⟨hbounds.clock, hbounds.ticked⟩, ?_, hbounds.nonces, ?_, ?_, hs.step_established h,
    fun a => ?_⟩
  · rcases hnetwork with heq | ⟨m, heq⟩
    · rw [heq]
      exact hs.network
    · rw [heq]
      exact hs.network.union (Set.finite_singleton m)
  · rcases hregistry with heq | ⟨sat, -, heq⟩
    · rw [heq]
      exact hs.satRegistry
    · rw [heq]
      exact hs.satRegistry.union (Set.finite_singleton sat)
  · intro sat hsat
    rcases hregistry with heq | ⟨sat', hsat', heq⟩
    · rw [heq] at hsat
      exact (hs.tokens sat hsat).later hlater.clock
    · rw [heq] at hsat
      rcases hsat with hsat | rfl
      · exact (hs.tokens sat hsat).later hlater.clock
      · exact hsat'.later hlater.clock
  · rcases hs.agents a with ha | ha
    · exact ha.step hs.tokens h
    · exact Or.inr (hs.step_insider h ha)

omit [DecidableEq Agent] in
theorem legal_init : Legal c (init : State Agent) where
  clock := ⟨le_rfl, Or.inl rfl⟩
  network := Set.finite_empty
  nonces _ hm := hm.elim
  satRegistry := Set.finite_empty
  tokens _ hsat := hsat.elim
  established := Set.finite_empty.subset fun a ha => by cases ha
  agents _ := Or.inl ⟨rfl, rfl, rfl⟩

theorem legal_of_reachable (h : (spec c).Reachable s) : Legal c s := by
  refine (h.invariant (I := fun s => (spec c).Reachable s ∧ Legal c s) ?_ ?_).2
  · intro s hs
    obtain rfl : s = init := hs
    exact ⟨System.Reachable.init rfl, legal_init⟩
  · rintro i s s' ⟨hreach, hs⟩ hnext
    exact ⟨hreach.step i hnext, hs.step hreach hnext⟩

/-! ## Legal states are reachable -/

/-- What an agent has: its state, its counter and its snapshot. -/
def outside : GatewayState × ℤ × ℤ := (.listen, 0, 0)

variable (s) in
/-- The state, on the way to it: at some time, with some of the tokens, and
with what each agent has by then. -/
def onTheWay (now : ℤ) (registry : Set (Sat Agent)) (who : Agent → GatewayState × ℤ × ℤ) :
    State Agent where
  state := Prod.fst ∘ who
  highestNonce := Prod.fst ∘ Prod.snd ∘ who
  satRegistry := registry
  network := s.network
  clock := now
  byzantineServer := s.byzantineServer
  byzantineAc := s.byzantineAc
  networkPartition := false
  sessionSnapshot := Prod.snd ∘ Prod.snd ∘ who

variable {now : ℤ} {registry : Set (Sat Agent)} {who : Agent → GatewayState × ℤ × ℤ}

/-- The shared actions leave the snapshots alone. -/
theorem takes (sessionSnapshot : Agent → ℤ) :
    Takes c (spec c) (fun v => { toVars := v, sessionSnapshot }) fun _ => True :=
  fun action _ _ _ hnext hreach => hreach.step (.common action) ⟨hnext, rfl⟩

/-- Whom the adversary will compromise it compromises first, and all
messages are sent. -/
theorem reachable_first (hs : Legal c s) :
    (spec c).Reachable (onTheWay s 0 ∅ fun _ => outside) := by
  have hinit : (spec c).Reachable (init : State Agent) := System.Reachable.init rfl
  have hcompromised : (spec c).Reachable
      { (init : State Agent) with
        byzantineServer := s.byzantineServer, byzantineAc := s.byzantineAc } :=
    (takes fun _ => 0).compromised (v := Vars.init) rfl rfl _ _ (fun _ => trivial)
      (fun _ => trivial) hinit
  have hsent := (takes fun _ => 0).sent (fun _ _ => trivial) hs.network hs.nonces hcompromised
  have hnetwork : (∅ : Set (Message Agent)) ∪ s.network = s.network := Set.empty_union _
  dsimp only [init, Vars.init] at hsent
  rw [hnetwork] at hsent
  exact hsent

theorem reachable_request (h : (spec c).Reachable (onTheWay s now registry who)) {sat : Sat Agent}
    (hsat : Issued c now sat) (hsoon : now < sat.exp) :
    (spec c).Reachable (onTheWay s now (registry ∪ {sat}) who) := by
  obtain ⟨agent, iat, exp, active⟩ := sat
  obtain ⟨rfl, hiat, hexp⟩ := hsat
  exact h.step (.requestSat agent iat exp)
    ⟨hiat, ⟨hsoon, hexp.2⟩, ⟨le_of_lt hexp.1, rfl⟩, rfl⟩

/-- **An insider is let in at its snapshot**, once its message and its
token are there. -/
theorem reachable_letIn (h : (spec c).Reachable (onTheWay s (s.sessionSnapshot a) registry who))
    (hout : who a = outside) (ha : Insider c a s) (hnonces : ∀ m ∈ s.network, 1 ≤ m.nonce)
    (hregistry : ∀ sat ∈ s.satRegistry, sat.iat ≤ s.sessionSnapshot a → sat ∈ registry) :
    (spec c).Reachable (onTheWay s (s.sessionSnapshot a) registry
      (Function.update who a (.established, s.highestNonce a, s.sessionSnapshot a))) := by
  obtain ⟨m, hm, hagent, hheard⟩ := ha.heard
  obtain ⟨sat, hsat, hsatAgent, hiat, hexp⟩ := ha.token
  let t := onTheWay s (s.sessionSnapshot a) registry who
  have hlisten : t.state a = .listen := congrArg Prod.fst hout
  have hzero : t.highestNonce a = 0 := congrArg (fun x => x.2.1) hout
  have hpositive := hnonces m hm
  have hguard : EntryGuard c a m sat 100 t.toVars :=
    ⟨Or.inl (by omega), hexp.imp_left fun hexp => ⟨hiat, hexp⟩, ha.score⟩
  have hentry : Entry a m sat 100 t.toVars :=
    ⟨rfl, Or.inl hlisten, ⟨hm, hagent, rfl⟩, ⟨hregistry sat hsat hiat, hsatAgent⟩, by decide⟩
  have hin := h.step (.atomicVerifyAndEvaluate a m sat 100) ⟨hentry, (if_pos hguard).symm⟩
  have hupdate : onTheWay s (s.sessionSnapshot a) registry
      (Function.update who a (.established, s.highestNonce a, s.sessionSnapshot a)) =
        { t with
          highestNonce := Function.update t.highestNonce a m.nonce
          sessionSnapshot := Function.update t.sessionSnapshot a (s.sessionSnapshot a)
          state := Function.update t.state a .established } := by
    rw [hheard]
    simp only [t, onTheWay, Function.comp_update]
  rw [hupdate]
  exact hin

/-! ## The way there -/

variable (s) in
/-- The tokens issued before a time. -/
def tokensBefore (now : ℤ) : Set (Sat Agent) := {sat | sat ∈ s.satRegistry ∧ sat.iat < now}

variable (s) in
/-- What an agent has before it: who is let in by then is inside. -/
def whoBefore (now : ℤ) (a : Agent) : GatewayState × ℤ × ℤ :=
  if s.state a = .established ∧ s.sessionSnapshot a < now then
    (.established, s.highestNonce a, s.sessionSnapshot a)
  else outside

omit [DecidableEq Agent] in
theorem tokensBefore_succ (now : ℤ) : tokensBefore s now ∪
    {sat | sat ∈ s.satRegistry ∧ sat.iat = now} = tokensBefore s (now + 1) := by
  ext sat
  simp only [tokensBefore, Set.mem_union, Set.mem_ofPred_eq]
  constructor
  · rintro (⟨hsat, hiat⟩ | ⟨hsat, hiat⟩)
    · exact ⟨hsat, by omega⟩
    · exact ⟨hsat, by omega⟩
  · rintro ⟨hsat, hiat⟩
    rcases lt_or_eq_of_le (Int.lt_add_one_iff.1 hiat) with hlt | heq
    · exact Or.inl ⟨hsat, hlt⟩
    · exact Or.inr ⟨hsat, heq⟩

omit [DecidableEq Agent] in
/-- Whose snapshot it is not has at one reading what it has at the next. -/
theorem whoBefore_succ {now : ℤ} (h : ¬ (s.state a = .established ∧ s.sessionSnapshot a = now)) :
    whoBefore s (now + 1) a = whoBefore s now a := by
  have hiff : (s.state a = .established ∧ s.sessionSnapshot a < now + 1) ↔
      s.state a = .established ∧ s.sessionSnapshot a < now := by
    constructor
    · rintro ⟨ha, hsnapshot⟩
      have hother : s.sessionSnapshot a ≠ now := fun heq => h ⟨ha, heq⟩
      exact ⟨ha, by omega⟩
    · rintro ⟨ha, hsnapshot⟩
      exact ⟨ha, by omega⟩
  simp only [whoBefore, hiff]

/-- **What happens at one reading of the clock.** -/
theorem reachable_during (hs : Legal c s)
    (h : (spec c).Reachable (onTheWay s now (tokensBefore s now) (whoBefore s now))) :
    (spec c).Reachable
      (onTheWay s now (tokensBefore s (now + 1)) (whoBefore s (now + 1))) := by
  have hrequested : (spec c).Reachable
      (onTheWay s now (tokensBefore s (now + 1)) (whoBefore s now)) := by
    rw [← tokensBefore_succ]
    refine of_finite (P := fun registry => (spec c).Reachable
      (onTheWay s now registry (whoBefore s now)))
      (hs.satRegistry.subset fun sat hsat => hsat.1) h ?_
    rintro sat ⟨hsat, rfl⟩ registry h
    have hissued := hs.tokens sat hsat
    exact reachable_request h ⟨hissued.active, ⟨hissued.iat.1, le_rfl⟩, hissued.exp⟩
      hissued.exp.1
  have hturn : {a | s.state a = .established ∧ s.sessionSnapshot a = now}.Finite :=
    hs.established.subset fun a ha => ha.1
  refine of_agentwise (P := fun who => (spec c).Reachable
    (onTheWay s now (tokensBefore s (now + 1)) who)) hturn (fun a ha => whoBefore_succ ha)
    hrequested ?_
  rintro a ⟨ha, rfl⟩ who hwho h
  have hinsider : Insider c a s := by
    rcases hs.agents a with houtside | hinside
    · rw [houtside.state] at ha
      cases ha
    · exact hinside
  have hout : who a = outside := hwho.trans (if_neg fun h => lt_irrefl _ h.2)
  have hin : whoBefore s (s.sessionSnapshot a + 1) a =
      (.established, s.highestNonce a, s.sessionSnapshot a) :=
    if_pos ⟨ha, Int.lt_add_one_iff.2 le_rfl⟩
  rw [hin]
  exact reachable_letIn h hout hinsider (fun m hm => (hs.nonces m hm).1) fun sat hsat hiat =>
    ⟨hsat, Int.lt_add_one_iff.2 hiat⟩

/-- **The clock gets there**, with all done that happened before. -/
theorem reachable_before (hs : Legal c s) (k : ℕ) (hk : (k : ℤ) ≤ s.clock) :
    (spec c).Reachable (onTheWay s k (tokensBefore s k) (whoBefore s k)) := by
  induction k with
  | zero =>
    have htokens : tokensBefore s 0 = ∅ := by
      refine Set.eq_empty_of_forall_notMem fun sat ⟨hsat, hiat⟩ => ?_
      have hissued := (hs.tokens sat hsat).iat
      omega
    have hwho : whoBefore s 0 = fun _ => outside := by
      funext a
      have hstarted := hs.zero_le_sessionSnapshot a
      exact if_neg fun h => absurd h.2 (by omega)
    rw [Nat.cast_zero, htokens, hwho]
    exact reachable_first hs
  | succ k ih =>
    have hbefore : (k : ℤ) < s.clock := by omega
    have hclock := hs.clock
    have hlast : (k : ℤ) < c.maxTime := by omega
    have hduring := reachable_during hs (ih (le_of_lt hbefore))
    rw [Nat.cast_succ]
    exact hduring.step (.common .tick) ⟨⟨hlast, rfl⟩, rfl⟩

omit [DecidableEq Agent] in
theorem onTheWay_clock (hs : Legal c s) :
    onTheWay s s.clock (tokensBefore s (s.clock + 1)) (whoBefore s (s.clock + 1)) =
      { s with networkPartition := false } := by
  have htokens : tokensBefore s (s.clock + 1) = s.satRegistry :=
    Set.Subset.antisymm (fun sat hsat => hsat.1)
      fun sat hsat => ⟨hsat, Int.lt_add_one_iff.2 (hs.tokens sat hsat).iat.2⟩
  have hwho : ∀ a, whoBefore s (s.clock + 1) a =
      (s.state a, s.highestNonce a, s.sessionSnapshot a) := by
    intro a
    rcases hs.agents a with ha | ha
    · have hout : ¬ (s.state a = .established ∧ s.sessionSnapshot a < s.clock + 1) := by
        rw [ha.state]
        rintro ⟨h, -⟩
        cases h
      rw [whoBefore, if_neg hout, ha.state, ha.highestNonce, ha.sessionSnapshot, outside]
    · have hin : s.state a = .established ∧ s.sessionSnapshot a < s.clock + 1 :=
        ⟨ha.state, Int.lt_add_one_iff.2 ha.sessionSnapshot⟩
      rw [whoBefore, if_pos hin, ha.state]
  rw [onTheWay, htokens, funext hwho]
  rfl

/-- **Every legal state is reachable.** -/
theorem Legal.reachable (hs : Legal c s) : (spec c).Reachable s := by
  obtain ⟨k, hk⟩ := Int.eq_ofNat_of_zero_le hs.clock.1
  have hbefore := reachable_before hs k (le_of_eq hk.symm)
  rw [← hk] at hbefore
  have hwhole := reachable_during hs hbefore
  rw [onTheWay_clock hs] at hwhole
  -- the partition comes last
  exact (takes s.sessionSnapshot).partitioned (v := { s.toVars with networkPartition := false })
    rfl s.networkPartition (fun _ => trivial) hwhole

variable (c s) in
/-- **The reachable states** of the Snapshot model, for any agents and any
bounds, are the legal ones. -/
theorem reachable_iff : (spec c).Reachable s ↔ Legal c s := ⟨legal_of_reachable, Legal.reachable⟩

end Snapshot

end ThreatModel

end NhpSba
