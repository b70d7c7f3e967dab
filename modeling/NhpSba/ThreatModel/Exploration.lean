import NhpSba.Common.BreadthFirst
import NhpSba.ThreatModel.Checker
import NhpSba.ThreatModel.Coverage
/-!
# Threat model — what the model checker explores

`run_model_checker` seldom returns, but what it does on the way is defined.
Its loop comes to every reachable state, once, under the actions of a
shortest run to it (`explores_in_order`). So its counters tell what is
reachable: where an agent can complete a handshake both rise without bound,
and elsewhere both stay at zero (`violations_counted`).
-/

namespace NhpSba

namespace ThreatModel

namespace Simulator

variable {c : Constants} {agents : List String} {a : String} {s : State} {n m : ℕ}

namespace Checker

/-! ## The states taken -/

variable (c agents) in
/-- What the loop takes off its queue after some iterations. -/
def taken (n : ℕ) : Option (State × List String) := (explored c agents n).queue.head?

variable {trace : List String}

variable (c agents) in
theorem taken_eq (n : ℕ) :
    taken c agents n = Search.taken (key agents) (succ c agents) (State.new, []) n := by
  rw [taken, queue_explored, Search.taken]

/-- A run reaches its last state under the names of its actions. -/
theorem reach_of_run {ts : List (State × String × State)} (h : (simulator c agents).Run ts s) :
    Search.Reach (succ c agents) (State.new, []) (s, ts.map fun t => t.2.1) := by
  induction h with
  | init hs =>
    obtain rfl : _ = State.new := hs
    exact .refl
  | @step ts s s' _ name hnext ih =>
    rw [List.map_append, List.map_singleton]
    exact ih.tail (List.mem_map.2 ⟨(name, s'), hnext, rfl⟩)

theorem exists_run_of_reach {x : State × List String}
    (h : Search.Reach (succ c agents) (State.new, []) x) :
    ∃ ts, (simulator c agents).Run ts x.1 ∧ (ts.map fun t => t.2.1) = x.2 := by
  induction h with
  | refl => exact ⟨[], .init rfl, rfl⟩
  | @tail x y _ hy ih =>
    obtain ⟨ts, hts, hnames⟩ := ih
    obtain ⟨next, hnext, rfl⟩ := List.mem_map.1 hy
    exact ⟨_, hts.step next.1 hnext, by rw [List.map_append, List.map_singleton, hnames]⟩

/-- A trace has an action for each level. -/
theorem levels : Search.Levels (succ c agents) (State.new, [])
    (fun x : State × List String => x.2.length) where
  start := rfl
  succ x y hy := by
    obtain ⟨next, -, rfl⟩ := List.mem_map.1 hy
    exact List.length_append

theorem reach_of_taken (h : taken c agents n = some (s, trace)) :
    Search.Reach (succ c agents) (State.new, []) (s, trace) := by
  rw [taken_eq] at h
  exact (Search.explores_after _ _ _ n).reach _ (Search.mem_of_taken h)

theorem reachable_of_taken (h : taken c agents n = some (s, trace)) :
    (simulator c agents).Reachable s :=
  reachable_of_reach (reach_of_taken h)

/-- **Every reachable state is taken.** -/
theorem exists_taken (hs : (simulator c agents).Reachable s) :
    ∃ n trace, taken c agents n = some (s, trace) := by
  obtain ⟨trace, htrace⟩ := exists_reach hs
  obtain ⟨n, ⟨t, trace'⟩, ht, hkey⟩ := Search.exists_taken congruent htrace
  have hreachable : (simulator c agents).Reachable t := by
    rw [← taken_eq] at ht
    exact reachable_of_taken ht
  obtain rfl : t = s :=
    eq_of_hashable_eq (outside_of_reachable hreachable) (outside_of_reachable hs) hkey
  exact ⟨n, trace', by rw [taken_eq, ht]⟩

/-- **No state is taken twice.** -/
theorem eq_of_taken {trace' : List String} (hn : taken c agents n = some (s, trace))
    (hm : taken c agents m = some (s, trace')) : n = m := by
  rw [taken_eq] at hn hm
  exact Search.eq_of_taken hn hm rfl

variable (c agents) in
/-- **The loop explores the reachable states in order.** It takes each of
them after some number of iterations, and never again; and the trace with
which it does is the actions of a run to the state, of which there is none
shorter. -/
theorem explores_in_order :
    (∀ s, (simulator c agents).Reachable s → ∃! n, ∃ trace, taken c agents n = some (s, trace)) ∧
    ∀ n s trace, taken c agents n = some (s, trace) →
      (∃ ts, (simulator c agents).Run ts s ∧ (ts.map fun t => t.2.1) = trace) ∧
        ∀ ts, (simulator c agents).Run ts s → trace.length ≤ ts.length := by
  refine ⟨fun s hs => ?_, fun n s trace h => ⟨exists_run_of_reach (reach_of_taken h), ?_⟩⟩
  · obtain ⟨n, trace, htaken⟩ := exists_taken hs
    exact ⟨n, ⟨trace, htaken⟩, fun m ⟨trace', htaken'⟩ => eq_of_taken htaken' htaken⟩
  · intro ts hts
    rw [taken_eq] at h
    have hle := Search.depth_taken_le congruent levels h (reach_of_run hts) rfl
    rwa [List.length_map] at hle

/-! ## The counters -/

variable (c agents) in
/-- Taking a state raises a counter by what it counts there. -/
def Counts (count : Checker → ℕ) (f : State → ℕ) : Prop :=
  count (start agents) = 0 ∧ ∀ k s trace queue, k.queue = (s, trace) :: queue →
    count (k.iterate c agents) = count k + f s

theorem counts_replayViolations :
    Counts c agents replayViolations (replayViolationsIn agents) :=
  ⟨rfl, fun _ _ _ _ hqueue => congrArg (fun k => k.2.2.1) (counters_iterate hqueue)⟩

theorem counts_satBoundsViolations :
    Counts c agents satBoundsViolations (satBoundsViolationsIn agents) :=
  ⟨rfl, fun _ _ _ _ hqueue => congrArg (fun k => k.2.2.2) (counters_iterate hqueue)⟩

theorem counts_deadlocks : Counts c agents deadlocks fun _ => 0 :=
  ⟨rfl, fun _ _ _ _ hqueue => congrArg (fun k => k.2.1) (counters_iterate hqueue)⟩

variable {count : Checker → ℕ} {f : State → ℕ}

theorem Counts.succ (h : Counts c agents count f) (n : ℕ) :
    count (explored c agents (n + 1)) =
      count (explored c agents n) + ((taken c agents n).elim 0 fun x => f x.1) := by
  rw [explored, Function.iterate_succ_apply', ← explored, taken]
  rcases hqueue : (explored c agents n).queue with _ | ⟨⟨s, trace⟩, queue⟩
  · rw [iterate, hqueue]
    rfl
  · exact h.2 _ s trace queue hqueue

theorem Counts.mono (h : Counts c agents count f) :
    Monotone fun n => count (explored c agents n) :=
  monotone_nat_of_le_succ fun n => by
    rw [h.succ]
    exact Nat.le_add_right _ _

/-- What is nowhere to be counted is not. -/
theorem Counts.eq_zero (h : Counts c agents count f)
    (hf : ∀ s, (simulator c agents).Reachable s → f s = 0) (n : ℕ) :
    count (explored c agents n) = 0 := by
  induction n with
  | zero => exact h.1
  | succ n ih =>
    rw [h.succ, ih, Nat.zero_add]
    rcases htaken : taken c agents n with _ | ⟨s, trace⟩
    · rfl
    · exact hf s (reachable_of_taken htaken)

theorem Counts.pos_iff (h : Counts c agents count f) :
    (∃ n, 0 < count (explored c agents n)) ↔
      ∃ s, (simulator c agents).Reachable s ∧ 0 < f s := by
  constructor
  · rintro ⟨n, hn⟩
    by_contra hnone
    push Not at hnone
    have hzero := h.eq_zero (fun s hs => Nat.le_zero.1 (hnone s hs)) n
    omega
  · rintro ⟨s, hs, hpos⟩
    obtain ⟨n, trace, htaken⟩ := exists_taken hs
    refine ⟨n + 1, ?_⟩
    rw [h.succ, htaken]
    exact lt_of_lt_of_le hpos (Nat.le_add_left _ _)

variable (c agents) in
/-- The messages of the states taken so far are bounded. -/
theorem exists_bound (n : ℕ) :
    ∃ b, ∀ m < n, ∀ x, taken c agents m = some x → x.1.messages.length < b := by
  induction n with
  | zero => exact ⟨0, fun m hm => absurd hm (Nat.not_lt_zero m)⟩
  | succ n ih =>
    obtain ⟨b, hb⟩ := ih
    refine ⟨b + (taken c agents n).elim 0 fun x => x.1.messages.length + 1, fun m hm x hx => ?_⟩
    rcases Nat.lt_succ_iff_lt_or_eq.1 hm with hm | rfl
    · exact lt_of_lt_of_le (hb m hm x hx) (Nat.le_add_right _ _)
    · rw [hx]
      show x.1.messages.length < b + (x.1.messages.length + 1)
      omega

/-- **What is counted in states with ever more messages** is counted
without bound. -/
theorem Counts.unbounded (h : Counts c agents count f)
    (hf : ∀ b, ∃ s, (simulator c agents).Reachable s ∧ 0 < f s ∧ b ≤ s.messages.length) (k : ℕ) :
    ∃ n, k ≤ count (explored c agents n) := by
  induction k with
  | zero => exact ⟨0, Nat.zero_le _⟩
  | succ k ih =>
    obtain ⟨n, hn⟩ := ih
    -- a state with more messages than all those taken so far is taken later
    obtain ⟨b, hb⟩ := exists_bound c agents n
    obtain ⟨s, hs, hpos, hmany⟩ := hf b
    obtain ⟨m, trace, htaken⟩ := exists_taken hs
    have hlater : n ≤ m := by
      by_contra hearlier
      have hfew := hb m (not_le.1 hearlier) _ htaken
      dsimp only at hfew
      omega
    refine ⟨m + 1, ?_⟩
    have hmono : count (explored c agents n) ≤ count (explored c agents m) := h.mono hlater
    rw [h.succ, htaken]
    show k + 1 ≤ count (explored c agents m) + f s
    omega

end Checker

/-! ## What is counted -/

theorem replayViolationsIn_pos_iff : 0 < replayViolationsIn agents s ↔ ∃ a ∈ agents,
    s.gatewayState a = .established ∧
      ∃ m ∈ s.messages, m.isReplay ∧ s.highestNonce a = m.nonce := by
  rw [replayViolationsIn, List.length_pos_iff_exists_mem]
  constructor
  · rintro ⟨m, hm⟩
    obtain ⟨a, ha, hm⟩ := List.mem_flatMap.1 hm
    obtain ⟨hm, hviolates⟩ := List.mem_filter.1 hm
    obtain ⟨hreplay, hstate, hnonce⟩ := of_decide_eq_true hviolates
    exact ⟨a, ha, hstate, m, hm, hreplay, hnonce⟩
  · rintro ⟨a, ha, hstate, m, hm, hreplay, hnonce⟩
    exact ⟨m, List.mem_flatMap.2 ⟨a, ha, List.mem_filter.2
      ⟨hm, decide_eq_true ⟨hreplay, hstate, hnonce⟩⟩⟩⟩

theorem satBoundsViolationsIn_pos_iff : 0 < satBoundsViolationsIn agents s ↔ ∃ a ∈ agents,
    Verified (s.gatewayState a) ∧
      ∀ sat ∈ s.satRegistry, sat.agent = a → sat.exp ≤ s.clock := by
  rw [satBoundsViolationsIn, List.countP_pos_iff]
  refine exists_congr fun a => and_congr_right fun _ => ?_
  simp [Verified]

/-- What is counted is counted where an agent came to its evaluation. -/
theorem bounds_of_replayViolationsIn (hs : (simulator c agents).Reachable s)
    (h : 0 < replayViolationsIn agents s) : agents ≠ [] ∧ 1 ≤ c.maxNonce ∧ 1 ≤ c.maxTime := by
  obtain ⟨a, ha, hstate, -⟩ := replayViolationsIn_pos_iff.1 h
  exact ⟨List.ne_nil_of_mem ha, Coverage.bounds_of_verified hs ha (Or.inr hstate)⟩

theorem bounds_of_satBoundsViolationsIn (hs : (simulator c agents).Reachable s)
    (h : 0 < satBoundsViolationsIn agents s) :
    agents ≠ [] ∧ 1 ≤ c.maxNonce ∧ 1 ≤ c.maxTime := by
  obtain ⟨a, ha, hstate, -⟩ := satBoundsViolationsIn_pos_iff.1 h
  exact ⟨List.ne_nil_of_mem ha, Coverage.bounds_of_verified hs ha hstate⟩

/-! ## A handshake that is counted -/

theorem Step.admitted {m : Message} (ha : m.agent ∈ agents) (hm : m ∈ s.messages)
    (h : s.gatewayState m.agent = .parseSig) (hnew : s.highestNonce m.agent < m.nonce) :
    Step c agents s ({ s with
      highestNonce := Function.update s.highestNonce m.agent m.nonce }.setGateway m.agent
        .verifySat) := by
  have hstep : Step c agents s _ := .gatewayParseSig m ha hm h
  rwa [if_pos hnew] at hstep

theorem Step.accepted {m : Message} {sat : Sat} (ha : m.agent ∈ agents) (hm : m ∈ s.messages)
    (hsat : sat ∈ s.satRegistry ∧ sat.agent = m.agent ∧ sat.intent = m.intent)
    (h : s.gatewayState m.agent = .verifySat) (hvalid : s.clock < sat.exp) :
    Step c agents s (s.setGateway m.agent .evaluateMama) := by
  have hstep : Step c agents s _ := .gatewayVerifySat m ha hm sat hsat h
  rwa [if_pos hvalid] at hstep

theorem Step.overruled (ha : a ∈ agents) (h : s.gatewayState a = .evaluateMama)
    (hbyzantine : s.byzantineActive = true) : Step c agents s (s.setGateway a .established) := by
  have hstep : Step c agents s _ := .gatewayEvaluateMama a ha 0 (Or.inl rfl) h
  rwa [if_pos (Or.inl hbyzantine)] at hstep

/-- An agent comes to its evaluation, before the clock first ticks, with
its handshake replayed. -/
theorem exists_evaluating (ha : a ∈ agents) (hnonce : 1 ≤ c.maxNonce) (htime : 1 ≤ c.maxTime) :
    ∃ s, (simulator c agents).Reachable s ∧ s.gatewayState a = .evaluateMama ∧
      s.byzantineActive = false ∧ s.clock = 0 ∧ (∀ sat ∈ s.satRegistry, sat.exp ≤ 1) ∧
      ∃ m ∈ s.messages, m.isReplay ∧ s.highestNonce a = m.nonce := by
  let m : Message :=
    { type := .knk, agent := a, nonce := 1, intent := .beamform, isReplay := false }
  let sat : Sat := { agent := a, exp := 1, intent := .beamform, active := true }
  have hm : m ∈ [m, { m with isReplay := true }] := List.mem_cons_self
  have hinit : (simulator c agents).Reachable State.new := System.Reachable.init rfl
  have hsend := reachable_of_step hinit (.agentSendHandshake a ha 1 ⟨le_rfl, hnonce⟩)
  have hreplay := reachable_of_step hsend (.maliciousReplay a ha m (List.mem_singleton_self _))
  have hrequest := reachable_of_step hreplay (.agentRequestIntent a ha 1 ⟨Int.zero_lt_one, htime⟩)
  have hreceive := reachable_of_step hrequest (.gatewayReceiveKnk a ha m hm (Or.inl rfl))
  have hparse := reachable_of_step hreceive
    (.admitted (m := m) ha hm (Function.update_self ..) Int.zero_lt_one)
  have hsat : sat ∈ [sat] ∧ sat.agent = a ∧ sat.intent = m.intent :=
    ⟨List.mem_singleton_self _, rfl, rfl⟩
  have hverify := reachable_of_step hparse
    (.accepted (m := m) ha hm hsat (Function.update_self ..) Int.zero_lt_one)
  refine ⟨_, hverify, Function.update_self .., rfl, rfl, fun sat' hsat' => ?_, ?_⟩
  · obtain rfl := List.mem_singleton.1 hsat'
    exact le_rfl
  · exact ⟨{ m with isReplay := true }, List.mem_cons_of_mem _ (List.mem_singleton_self _), rfl,
      Function.update_self ..⟩

/-- A byzantine engine establishes the agent, so the replay repeats the
nonce of a session. -/
theorem exists_replayViolation (ha : a ∈ agents) (hnonce : 1 ≤ c.maxNonce)
    (htime : 1 ≤ c.maxTime) :
    ∃ s, (simulator c agents).Reachable s ∧ 0 < replayViolationsIn agents s := by
  obtain ⟨s, hs, hstate, hhonest, -, -, hreplayed⟩ := exists_evaluating ha hnonce htime
  have htrigger := reachable_of_step hs (.byzantineTrigger hhonest)
  have hevaluate := reachable_of_step htrigger (.overruled ha hstate rfl)
  exact ⟨_, hevaluate, replayViolationsIn_pos_iff.2 ⟨a, ha, Function.update_self .., hreplayed⟩⟩

/-- The clock ticks past the token while the agent waits for the score. -/
theorem exists_satBoundsViolation (ha : a ∈ agents) (hnonce : 1 ≤ c.maxNonce)
    (htime : 1 ≤ c.maxTime) :
    ∃ s, (simulator c agents).Reachable s ∧ 0 < satBoundsViolationsIn agents s := by
  obtain ⟨s, hs, hstate, -, hclock, hexps, -⟩ := exists_evaluating ha hnonce htime
  have htick := reachable_of_step hs (.tickClock (by omega))
  refine ⟨_, htick, satBoundsViolationsIn_pos_iff.2 ⟨a, ha, Or.inl hstate, fun sat hsat _ => ?_⟩⟩
  have hexp := hexps sat hsat
  show sat.exp ≤ s.clock + 1
  omega

/-- What more handshakes do not undo is found with any number of them. -/
theorem exists_many {f : State → ℕ} (hf : ∀ s m, 0 < f s → 0 < f (s.send m)) (ha : a ∈ agents)
    (hnonce : 1 ≤ c.maxNonce) (h : ∃ s, (simulator c agents).Reachable s ∧ 0 < f s) (b : ℕ) :
    ∃ s, (simulator c agents).Reachable s ∧ 0 < f s ∧ b ≤ s.messages.length := by
  induction b with
  | zero =>
    obtain ⟨s, hs, hpos⟩ := h
    exact ⟨s, hs, hpos, Nat.zero_le _⟩
  | succ b ih =>
    obtain ⟨s, hs, hpos, hmany⟩ := ih
    refine ⟨_, reachable_of_step hs (.agentSendHandshake a ha 1 ⟨le_rfl, hnonce⟩), hf s _ hpos, ?_⟩
    rw [State.send, List.length_append, List.length_singleton]
    omega

theorem replayViolationsIn_send (s : State) (m : Message) (h : 0 < replayViolationsIn agents s) :
    0 < replayViolationsIn agents (s.send m) := by
  obtain ⟨a, ha, hstate, m', hm', hviolates⟩ := replayViolationsIn_pos_iff.1 h
  exact replayViolationsIn_pos_iff.2
    ⟨a, ha, hstate, m', List.mem_append_left _ hm', hviolates⟩

namespace Checker

variable (c agents) in
/-- **What the counters tell.** Where an agent can complete a handshake,
replays of established nonces and expired tokens are counted without bound;
elsewhere neither is ever counted. Deadlocks never are. -/
theorem violations_counted :
    ((∃ n, 0 < (explored c agents n).replayViolations) ↔
      agents ≠ [] ∧ 1 ≤ c.maxNonce ∧ 1 ≤ c.maxTime) ∧
    ((∃ n, 0 < (explored c agents n).satBoundsViolations) ↔
      agents ≠ [] ∧ 1 ≤ c.maxNonce ∧ 1 ≤ c.maxTime) ∧
    (agents ≠ [] ∧ 1 ≤ c.maxNonce ∧ 1 ≤ c.maxTime → ∀ k,
      (∃ n, k ≤ (explored c agents n).replayViolations) ∧
        ∃ n, k ≤ (explored c agents n).satBoundsViolations) ∧
    ∀ n, (explored c agents n).deadlocks = 0 := by
  refine ⟨?_, ?_, ?_, counts_deadlocks.eq_zero fun _ _ => rfl⟩
  · rw [counts_replayViolations.pos_iff]
    refine ⟨fun ⟨s, hs, hpos⟩ => bounds_of_replayViolationsIn hs hpos, ?_⟩
    rintro ⟨hagents, hnonce, htime⟩
    obtain ⟨a, ha⟩ := List.exists_mem_of_ne_nil agents hagents
    exact exists_replayViolation ha hnonce htime
  · rw [counts_satBoundsViolations.pos_iff]
    refine ⟨fun ⟨s, hs, hpos⟩ => bounds_of_satBoundsViolationsIn hs hpos, ?_⟩
    rintro ⟨hagents, hnonce, htime⟩
    obtain ⟨a, ha⟩ := List.exists_mem_of_ne_nil agents hagents
    exact exists_satBoundsViolation ha hnonce htime
  · rintro ⟨hagents, hnonce, htime⟩ k
    obtain ⟨a, ha⟩ := List.exists_mem_of_ne_nil agents hagents
    constructor
    · exact counts_replayViolations.unbounded (exists_many replayViolationsIn_send ha hnonce
        (exists_replayViolation ha hnonce htime)) k
    · -- a handshake changes neither the agents' states nor the registry
      exact counts_satBoundsViolations.unbounded (exists_many (fun _ _ hpos => hpos) ha hnonce
        (exists_satBoundsViolation ha hnonce htime)) k

end Checker

end Simulator

end ThreatModel

end NhpSba
