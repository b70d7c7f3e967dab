import NhpSba.ThreatModel.TokenBounds
/-!
# Threat model — who is let in at last

The Deterministic model asks that NHPAC be taken where it could change the
state for ever (`WF_vars(NHPAC)`). In its reachable states an agent listens
under a zero counter, or is established for good (`Settled`); so an agent
with a handshake and a token that lasts can be let in as long as there is
no partition. That is enough where the partition heals for good, and not
where it only lifts again and again (`letIn_iff`).
-/

namespace NhpSba

namespace ThreatModel

namespace Deterministic

variable {Agent : Type*} [DecidableEq Agent] {c : Constants} {i : Action Agent}
  {s s' : State Agent} {a : Agent} {b : ℕ → State Agent}

/-! ## Agents listen or are established -/

/-- No agent was ever moved but by letting it in. -/
def Settled (s : State Agent) : Prop :=
  ∀ a, s.state a = .established ∨ s.state a = .listen ∧ s.highestNonce a = 0

omit [DecidableEq Agent] in
theorem Settled.listen (hs : Settled s) (ha : s.state a ≠ .established) :
    s.state a = .listen ∧ s.highestNonce a = 0 :=
  (hs a).resolve_left ha

omit [DecidableEq Agent] in
theorem Entry.ne_established {m : Message Agent} {sat : Sat Agent} {score : ℤ}
    (h : Entry a m sat score s) : s.state a ≠ .established := by
  intro ha
  have hstate := h.2.1
  rw [ha] at hstate
  rcases hstate with hstate | hstate <;> cases hstate

/-- **What a step does to agents that are settled**: it lets one in, or
moves none. -/
theorem next_settled (hs : Settled s) (h : Next c i s s') :
    (∃ a m sat score, LetsIn c a m sat score i s) ∨
      (s'.state = s.state ∧ s'.highestNonce = s.highestNonce) := by
  cases i with
  | requestSat a iat exp =>
    obtain ⟨-, -, -, rfl⟩ := h
    exact Or.inr ⟨rfl, rfl⟩
  | common action =>
    right
    cases action with
    | undefinedBehaviorHandling a =>
      obtain ⟨hstate, -⟩ := h
      rcases hs a with ha | ⟨ha, -⟩
      · rw [ha] at hstate
        cases hstate
      · rw [ha] at hstate
        cases hstate
    | sendHandshake a nonce =>
      obtain ⟨-, -, rfl⟩ := h
      exact ⟨rfl, rfl⟩
    | togglePartition =>
      obtain rfl := h
      exact ⟨rfl, rfl⟩
    | maliciousReplay _ | compromiseServer | compromiseAc | tick =>
      obtain ⟨-, rfl⟩ := h
      exact ⟨rfl, rfl⟩
  | atomicVerifyAndEvaluate a m sat score =>
    obtain ⟨hentry, rfl⟩ := h
    by_cases hguard : EntryGuard c a m sat score s
    · exact Or.inl ⟨a, m, sat, score, rfl, hentry, hguard⟩
    · -- an agent that is refused listened already
      have hlisten := (hs.listen hentry.ne_established).1
      right
      rw [if_neg hguard]
      refine ⟨?_, rfl⟩
      show Function.update s.state a .listen = s.state
      rw [← hlisten, Function.update_eq_self]

theorem Settled.step (hs : Settled s) (h : Next c i s s') : Settled s' := by
  intro b
  rcases next_settled hs h with ⟨a, m, sat, score, hin⟩ | ⟨hstate, hnonce⟩
  · rw [next_letsIn h hin]
    by_cases hab : b = a
    · subst hab
      exact Or.inl (Function.update_self ..)
    · rcases hs b with hb | ⟨hb, hzero⟩
      · exact Or.inl ((Function.update_of_ne hab ..).trans hb)
      · exact Or.inr ⟨(Function.update_of_ne hab ..).trans hb,
          (Function.update_of_ne hab ..).trans hzero⟩
  · rw [hstate, hnonce]
    exact hs b

theorem settled_of_reachable (h : (spec c).Reachable s) : Settled s := by
  refine h.invariant ?_ ?_
  · rintro s rfl a
    exact Or.inr ⟨rfl, rfl⟩
  · intro i s s' hs hnext
    exact hs.step hnext

/-- **Who is established stays so.** -/
theorem established_of_next (hs : Settled s) (h : Next c i s s') (ha : s.state a = .established) :
    s'.state a = .established := by
  rcases next_settled hs h with ⟨b, m, sat, score, hin⟩ | ⟨hstate, -⟩
  · rw [next_letsIn h hin]
    by_cases hab : a = b
    · subst hab
      exact Function.update_self ..
    · exact (Function.update_of_ne hab ..).trans ha
  · rw [hstate, ha]

/-- **NHPAC changes something only by letting an agent in.** -/
theorem letsIn_of_changes (hs : Settled s) (h : System.Changes (NHPAC c) s s') :
    ∃ a m sat score, Entry a m sat score s ∧ EntryGuard c a m sat score s ∧
      s'.state = Function.update s.state a .established := by
  obtain ⟨⟨a, m, sat, score, hnext⟩, hne⟩ := h
  have hstep : Next c (.atomicVerifyAndEvaluate a m sat score) s s' := hnext
  obtain ⟨hentry, rfl⟩ := hnext
  by_cases hguard : EntryGuard c a m sat score s
  · exact ⟨a, m, sat, score, hentry, hguard, by rw [if_pos hguard]⟩
  · -- an agent that is refused listened already
    refine absurd ?_ hne
    have hlisten := (hs.listen hentry.ne_established).1
    rw [if_neg hguard, ← hlisten, Function.update_eq_self]

/-- SGC never has anything to do. -/
theorem not_sgc (hs : Settled s) : ¬ SGC s s' := by
  rintro ⟨a, hstate, -⟩
  rcases hs a with ha | ⟨ha, -⟩
  · rw [ha] at hstate
    cases hstate
  · rw [ha] at hstate
    cases hstate

/-! ## How many agents are outside -/

/-- The agents not let in. -/
noncomputable def outside (s : State Agent) : ℕ := {a | s.state a ≠ .established}.ncard

omit [DecidableEq Agent] in
theorem outside_le [Finite Agent] (h : ∀ a, s.state a = .established → s'.state a = .established) :
    outside s' ≤ outside s := by
  refine Set.ncard_le_ncard (fun a ha hbefore => ha (h a hbefore)) (Set.toFinite _)

theorem outside_lt [Finite Agent] (hs : Settled s) (h : System.Changes (NHPAC c) s s') :
    outside s' < outside s := by
  obtain ⟨a, m, sat, score, hentry, -, hstate⟩ := letsIn_of_changes hs h
  refine Set.ncard_lt_ncard ⟨fun b hb hbefore => hb ?_, fun hsubset => ?_⟩ (Set.toFinite _)
  · rw [hstate]
    by_cases hab : b = a
    · subst hab
      exact Function.update_self ..
    · exact (Function.update_of_ne hab ..).trans hbefore
  · refine hsubset hentry.ne_established ?_
    rw [hstate]
    exact Function.update_self ..

/-! ## Who can be let in -/

variable (c a) in
/-- A handshake of the agent's is in the network, and the registry has a
token of its that is valid from now to the end of the time. -/
def Waiting (s : State Agent) : Prop :=
  (∃ m ∈ s.network, m.agent = a) ∧
    ∃ sat ∈ s.satRegistry, sat.agent = a ∧ sat.iat ≤ s.clock ∧ sat.exp = c.maxTime

omit [DecidableEq Agent] in
theorem Waiting.later (h : Waiting c a s) (hlater : s.Later s') : Waiting c a s' := by
  obtain ⟨⟨m, hm, hagent⟩, sat, hsat, hsatAgent, hiat, hexp⟩ := h
  exact ⟨⟨m, hlater.network hm, hagent⟩, sat, hlater.satRegistry hsat, hsatAgent,
    le_trans hiat hlater.clock, hexp⟩

/-- **Without a partition an agent that waits can be let in**, where some
score is enough. -/
theorem exists_changes (hgrounded : Grounded c s) (hs : Settled s) (hscore : c.minSafetyScore ≤ 100)
    (hwaiting : Waiting c a s) (ha : s.state a ≠ .established)
    (hpartition : s.networkPartition = false) : ∃ s', System.Changes (NHPAC c) s s' := by
  obtain ⟨⟨m, hm, hagent⟩, sat, hsat, hsatAgent, hiat, hexp⟩ := hwaiting
  obtain ⟨hlisten, hzero⟩ := hs.listen ha
  have hnonce := hgrounded.bounds.nonces m hm
  have htoken := hgrounded.tokens sat hsat
  have hticked := hgrounded.bounds.ticked
  have hguard : EntryGuard c a m sat 100 s :=
    ⟨Or.inl (by omega), Or.inl ⟨hiat, by omega⟩, Or.inl hscore⟩
  have hentry : Entry a m sat 100 s :=
    ⟨hpartition, Or.inl hlisten, ⟨hm, hagent, rfl⟩, ⟨hsat, hsatAgent⟩, by decide⟩
  refine ⟨_, ⟨a, m, sat, 100, hentry, rfl⟩, fun heq => ha ?_⟩
  rw [if_pos hguard] at heq
  rw [← heq]
  exact Function.update_self ..

omit [DecidableEq Agent] in
/-- Nobody waits without a nonce to send and an expiry to ask for. -/
theorem Waiting.bounds (h : Waiting c a s) (hgrounded : Grounded c s) :
    1 ≤ c.maxNonce ∧ 1 ≤ c.maxTime := by
  obtain ⟨⟨m, hm, -⟩, sat, hsat, -⟩ := h
  have hnonce := hgrounded.bounds.nonces m hm
  have htoken := hgrounded.tokens sat hsat
  omega

/-! ## Behaviours -/

/-- From some point on there is no partition. -/
def PartitionHeals (b : ℕ → State Agent) : Prop := ∃ N, ∀ n, N ≤ n → (b n).networkPartition = false

/-- Again and again there is no partition. -/
def PartitionLifts (b : ℕ → State Agent) : Prop :=
  ∀ N, ∃ n, N ≤ n ∧ (b n).networkPartition = false

variable (c) in
/-- Whoever waits is let in at last. -/
def LetInAtLast (b : ℕ → State Agent) : Prop :=
  ∀ a, System.LeadsTo (Waiting c a) (fun s => s.state a = .established) b

theorem letInAtLast_of_heals [Finite Agent] (hb : FairSpec c b) (hheals : PartitionHeals b)
    (hscore : c.minSafetyScore ≤ 100) : LetInAtLast c b := by
  intro a n hwaiting
  obtain ⟨N, hN⟩ := hheals
  have hreach := hb.behaviour.reachable
  -- what a step of the behaviour keeps
  have hwaits : ∀ n, Waiting c a (b n) → Waiting c a (b (n + 1)) := by
    intro n hwaiting
    rcases hb.behaviour.next n with ⟨i, hnext⟩ | hsame
    · exact hwaiting.later hnext.later
    · rwa [hsame]
  have hstays : ∀ n a, (b n).state a = .established → (b (n + 1)).state a = .established := by
    intro n a ha
    rcases hb.behaviour.next n with ⟨i, hnext⟩ | hsame
    · exact established_of_next (settled_of_reachable (hreach n)) hnext ha
    · rwa [hsame]
  have hlater : ∀ k, Waiting c a (b (n + k)) := by
    intro k
    induction k with
    | zero => exact hwaiting
    | succ k ih => exact hwaits (n + k) ih
  let outsideWaiting : State Agent → Prop := fun s => Waiting c a s ∧ s.state a ≠ .established
  have henabled : ∀ m, n + N ≤ m → outsideWaiting (b m) →
      ∃ s', System.Changes (NHPAC c) (b m) s' := fun m hm hout =>
    exists_changes (grounded_of_reachable (hreach m)) (settled_of_reachable (hreach m)) hscore
      hout.1 hout.2 (hN m (by omega))
  have hstep : ∀ m, n + N ≤ m → outsideWaiting (b m) →
      (b (m + 1)).state a = .established ∨ outsideWaiting (b (m + 1)) ∧
        outside (b (m + 1)) ≤ outside (b m) ∧
          (System.Changes (NHPAC c) (b m) (b (m + 1)) → outside (b (m + 1)) < outside (b m)) := by
    intro m _ hout
    by_cases hin : (b (m + 1)).state a = .established
    · exact Or.inl hin
    · exact Or.inr ⟨⟨hwaits m hout.1, hin⟩, outside_le (hstays m),
        outside_lt (settled_of_reachable (hreach m))⟩
  by_cases hin : (b (n + N)).state a = .established
  · exact ⟨n + N, by omega, hin⟩
  · obtain ⟨m, hm, hin⟩ := hb.nhpac.exists_of_rank (Q := fun s => s.state a = .established)
      outside henabled hstep le_rfl ⟨hlater N, hin⟩
    exact ⟨m, by omega, hin⟩

/-! ## Where it fails -/

variable (c) in
/-- The agent waits at the start of the time. -/
def waitingState (a : Agent) : State Agent :=
  { (Vars.init : State Agent) with
    satRegistry := {{ agent := a, iat := 0, exp := c.maxTime, active := true }}
    network := {{ type := .knk, agent := a, nonce := 1 }} }

theorem waitingState_reachable (a : Agent) (hnonce : 1 ≤ c.maxNonce) (htime : 1 ≤ c.maxTime) :
    (spec c).Reachable (waitingState c a) := by
  have hinit : (spec c).Reachable (Vars.init : State Agent) := System.Reachable.init rfl
  have hrequest := hinit.step (.requestSat a 0 c.maxTime)
    ⟨⟨le_rfl, le_rfl⟩, ⟨htime, le_rfl⟩, le_trans Int.one_nonneg htime, rfl⟩
  refine hrequest.step (.common (.sendHandshake a 1)) ⟨⟨le_rfl, hnonce⟩, ⟨le_rfl, hnonce⟩, ?_⟩
  simp [waitingState, Vars.init]

omit [DecidableEq Agent] in
theorem waiting_waitingState (a : Agent) : Waiting c a (waitingState c a) :=
  ⟨⟨_, Set.mem_singleton _, rfl⟩,
    ⟨{ agent := a, iat := 0, exp := c.maxTime, active := true }, Set.mem_singleton _, rfl,
      le_rfl, rfl⟩⟩

omit [DecidableEq Agent] in
/-- A behaviour that ends in states where the agent waits, and is not let
in, is none in which everyone is. -/
theorem not_letInAtLast {N : ℕ} (hwaiting : Waiting c a (b N))
    (hlisten : ∀ n, (b (N + n)).state a = .listen) : ¬ LetInAtLast c b := by
  intro h
  obtain ⟨m, hm, hin⟩ := h a N hwaiting
  obtain ⟨k, rfl⟩ := Nat.exists_eq_add_of_le hm
  rw [hlisten k] at hin
  cases hin

theorem sgc_fair (hb : (spec c).Behaviour b) : System.StronglyFair SGC b :=
  System.stronglyFair_of_disabled (N := 0) fun n _ _ h =>
    not_sgc (settled_of_reachable (hb.reachable n)) h.1

/-- **Partitions that lift again and again starve the agent**: NHPAC is
never possible for ever. -/
theorem exists_flapping (a : Agent) (hnonce : 1 ≤ c.maxNonce) (htime : 1 ≤ c.maxTime) :
    ∃ b : ℕ → State Agent, FairSpec c b ∧ PartitionLifts b ∧ ¬ LetInAtLast c b := by
  let s : State Agent := waitingState c a
  let t : State Agent := { s with networkPartition := true }
  have hst : (spec c).Step s t := ⟨.common .togglePartition, rfl⟩
  have hts : (spec c).Step t s := ⟨.common .togglePartition, rfl⟩
  obtain ⟨b, hb, N, hN⟩ := (waitingState_reachable a hnonce htime).exists_behaviour
    (System.alternate s t) rfl fun n => by
      rcases System.alternate_eq_or s t n with ⟨hn, hn'⟩ | ⟨hn, hn'⟩
      · rw [hn, hn']
        exact Or.inl hst
      · rw [hn, hn']
        exact Or.inl hts
  have hcut : ∀ n, b (N + (2 * n + 1)) = t := fun n => (hN _).trans (System.alternate_odd s t n)
  have hlifted : ∀ n, b (N + 2 * n) = s := fun n => (hN _).trans (System.alternate_even s t n)
  refine ⟨b, ⟨hb, ?_, sgc_fair hb⟩, fun n => ⟨N + 2 * n, by omega, ?_⟩, ?_⟩
  · -- there is a partition again and again
    refine System.weaklyFair_of_disabled fun n => ⟨N + (2 * n + 1), by omega, ?_⟩
    rintro s' ⟨⟨a', m, sat, score, ⟨hpartition, -⟩, -⟩, -⟩
    rw [hcut] at hpartition
    cases hpartition
  · rw [hlifted]
    rfl
  · refine not_letInAtLast (a := a) (N := N) ?_ fun n => ?_
    · have hfirst := hlifted 0
      rw [Nat.mul_zero, Nat.add_zero] at hfirst
      rw [hfirst]
      exact waiting_waitingState a
    · rw [hN n]
      rcases System.alternate_eq_or s t n with ⟨hn, -⟩ | ⟨hn, -⟩
      · rw [hn]
        rfl
      · rw [hn]
        rfl

/-- **Where no score is enough** the agent waits for ever. -/
theorem exists_refused (a : Agent) (hnonce : 1 ≤ c.maxNonce) (htime : 1 ≤ c.maxTime)
    (hscore : 100 < c.minSafetyScore) :
    ∃ b : ℕ → State Agent, FairSpec c b ∧ PartitionHeals b ∧ ¬ LetInAtLast c b := by
  obtain ⟨b, hb, N, hN⟩ := (waitingState_reachable a hnonce htime).exists_behaviour
    (fun _ => waitingState c a) rfl fun _ => Or.inr rfl
  refine ⟨b, ⟨hb, ?_, sgc_fair hb⟩, ⟨N, fun n hn => ?_⟩, ?_⟩
  · refine System.weaklyFair_of_disabled fun n => ⟨N + n, by omega, fun s' hchanges => ?_⟩
    obtain ⟨a', m, sat, score, hentry, hguard, -⟩ :=
      letsIn_of_changes (settled_of_reachable (hb.reachable (N + n))) hchanges
    obtain ⟨-, -, -, -, -, hmost⟩ := hentry
    obtain ⟨-, -, henough | hbyzantine | hbyzantine⟩ := hguard
    · omega
    · rw [hN] at hbyzantine
      cases hbyzantine
    · rw [hN] at hbyzantine
      cases hbyzantine
  · obtain ⟨k, rfl⟩ := Nat.exists_eq_add_of_le hn
    rw [hN]
    rfl
  · refine not_letInAtLast (a := a) (N := N) ?_ fun n => ?_
    · have hfirst := hN 0
      rw [Nat.add_zero] at hfirst
      rw [hfirst]
      exact waiting_waitingState a
    · rw [hN]
      rfl

theorem letInAtLast_of_idle (hb : (spec c).Behaviour b)
    (hidle : IsEmpty Agent ∨ c.maxNonce < 1 ∨ c.maxTime < 1) : LetInAtLast c b := by
  intro a
  refine hb.leadsTo_of_never fun s hs hwaiting => ?_
  have hbounds := hwaiting.bounds (grounded_of_reachable hs)
  rcases hidle with hempty | hidle
  · exact hempty.elim a
  · omega

variable (Agent c) in
/-- **Who is let in at last.** With finitely many agents, everyone who
waits is let in in every behaviour of the specification whose partition
heals for good, exactly where a score can be enough or nobody can wait. It
is not enough that the partition lift again and again: then everyone is let
in only where nobody can wait. -/
theorem letIn_iff [Finite Agent] :
    ((∀ b : ℕ → State Agent, FairSpec c b → PartitionHeals b → LetInAtLast c b) ↔
      IsEmpty Agent ∨ c.maxNonce < 1 ∨ c.maxTime < 1 ∨ c.minSafetyScore ≤ 100) ∧
    ((∀ b : ℕ → State Agent, FairSpec c b → PartitionLifts b → LetInAtLast c b) ↔
      IsEmpty Agent ∨ c.maxNonce < 1 ∨ c.maxTime < 1) := by
  refine ⟨⟨fun h => ?_, fun hcan b hb hheals => ?_⟩, fun h => ?_, fun hidle b hb _ => ?_⟩
  · by_contra hbusy
    push Not at hbusy
    obtain ⟨⟨a⟩, hnonce, htime, hscore⟩ := hbusy
    obtain ⟨b, hb, hheals, hfails⟩ := exists_refused a hnonce htime hscore
    exact hfails (h b hb hheals)
  · by_cases hscore : c.minSafetyScore ≤ 100
    · exact letInAtLast_of_heals hb hheals hscore
    · exact letInAtLast_of_idle hb.behaviour (hcan.imp_right fun h => by omega)
  · by_contra hbusy
    push Not at hbusy
    obtain ⟨⟨a⟩, hnonce, htime⟩ := hbusy
    obtain ⟨b, hb, hlifts, hfails⟩ := exists_flapping a hnonce htime
    exact hfails (h b hb hlifts)
  · exact letInAtLast_of_idle hb.behaviour hidle

/-- **With the configured bounds** healing is enough, and lifting is not. -/
theorem letIn_checkedBounds :
    (∀ b : ℕ → State Unit, FairSpec checkedBounds b → PartitionHeals b →
      LetInAtLast checkedBounds b) ∧
    ¬ ∀ b : ℕ → State Unit, FairSpec checkedBounds b → PartitionLifts b →
      LetInAtLast checkedBounds b := by
  obtain ⟨hheals, hlifts⟩ := letIn_iff Unit checkedBounds
  refine ⟨hheals.2 (Or.inr (Or.inr (Or.inr (by decide)))), fun h => ?_⟩
  rcases hlifts.1 h with hempty | hnonce | htime
  · exact hempty.elim ()
  · exact absurd hnonce (by decide)
  · exact absurd htime (by decide)

end Deterministic

end ThreatModel

end NhpSba
