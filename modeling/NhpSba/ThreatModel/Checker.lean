import Mathlib.Data.Finite.Prod
import NhpSba.Common.Worklist
import NhpSba.ThreatModel.Model.Checker
import NhpSba.ThreatModel.Simulator
/-!
# Threat model — where the model checker ends

The checker's loop is a worklist search, and on reachable states
`hashable()` is injective, so it returns exactly where finitely many states
are reachable. The collections of a state are lists, to which requests,
handshakes and replays append without bound; so that is only where there is
no agent, or none can do either (`returns_iff`).
-/

namespace NhpSba

namespace ThreatModel

namespace Simulator

variable {c : Constants} {agents : List String} {a : String} {s s' t : State}

/-! ## States by their hash -/

/-- The dictionaries have their initial entries at all but the agents. -/
def Outside (agents : List String) (s : State) : Prop :=
  ∀ a, a ∉ agents → s.gatewayState a = .listen ∧ s.highestNonce a = 0

theorem Outside.setGateway (h : Outside agents s) (ha : a ∈ agents) (g : GatewayState) :
    Outside agents (s.setGateway a g) := by
  intro b hb
  have hne : b ≠ a := fun heq => hb (heq ▸ ha)
  exact ⟨(Function.update_of_ne hne ..).trans (h b hb).1, (h b hb).2⟩

theorem Outside.step (hpending : Pending c agents s) (hs : Outside agents s)
    (h : Step c agents s s') : Outside agents s' := by
  cases h with
  | stateCorruption a ha h => exact hs.setGateway ha _
  | gatewayRecoverCorruption a ha h => exact hs.setGateway ha _
  | gatewayReceiveKnk a ha m hm h => exact hs.setGateway (hpending m hm).1 _
  | gatewayParseSig m ha hm h =>
    split
    · have hnonce : Outside agents
          { s with highestNonce := Function.update s.highestNonce m.agent m.nonce } := by
        intro b hb
        have hne : b ≠ m.agent := fun heq => hb (heq ▸ ha)
        exact ⟨(hs b hb).1, (Function.update_of_ne hne ..).trans (hs b hb).2⟩
      exact hnonce.setGateway ha _
    · exact hs.setGateway ha _
  | gatewayVerifySat m ha hm sat hsat h =>
    split
    · exact hs.setGateway ha _
    · exact hs.setGateway ha _
  | gatewayEvaluateMama a ha score hscore h =>
    split
    · exact hs.setGateway ha _
    · exact hs.setGateway ha _
  | _ => exact hs

theorem outside_of_reachable (h : (simulator c agents).Reachable s) : Outside agents s := by
  refine (h.invariant (I := fun s => Pending c agents s ∧ Outside agents s) ?_ ?_).2
  · intro s hs
    obtain rfl : s = State.new := hs
    exact ⟨fun m hm => (List.not_mem_nil hm).elim, fun a _ => ⟨rfl, rfl⟩⟩
  · rintro name s s' ⟨hpending, hs⟩ hnext
    exact ⟨hpending.step (step_of_mem hnext), hs.step hpending (step_of_mem hnext)⟩

theorem Sat.items_injective : Function.Injective Sat.items :=
  Function.LeftInverse.injective (g := fun (active, agent, exp, intent) =>
    { agent, exp, intent, active }) fun _ => rfl

theorem Message.items_injective : Function.Injective Message.items :=
  Function.LeftInverse.injective (g := fun (agent, intent, isReplay, nonce, type) =>
    { type, agent, nonce, intent, isReplay }) fun _ => rfl

/-- **Reachable states are told apart by their hash.** -/
theorem eq_of_hashable_eq (hs : Outside agents s) (ht : Outside agents t)
    (h : s.hashable agents = t.hashable agents) : s = t := by
  obtain ⟨gatewayState, highestNonce, satRegistry, messages, clock, byzantineActive⟩ := s
  obtain ⟨gatewayState', highestNonce', satRegistry', messages', clock', byzantineActive'⟩ := t
  simp only [State.hashable, Hashable.mk.injEq, List.map_inj_left, List.mem_eraseDups,
    Prod.mk.injEq, true_and] at h
  obtain ⟨hgateway, hnonce, hsats, hmessages, rfl, rfl⟩ := h
  obtain rfl := Sat.items_injective.list_map hsats
  obtain rfl := Message.items_injective.list_map hmessages
  -- the dictionaries agree at the agents by their items, and elsewhere are initial
  have hgatewayState : gatewayState = gatewayState' := by
    funext a
    by_cases ha : a ∈ agents
    · exact hgateway a ha
    · exact (hs a ha).1.trans (ht a ha).1.symm
  have hhighestNonce : highestNonce = highestNonce' := by
    funext a
    by_cases ha : a ∈ agents
    · exact hnonce a ha
    · exact (hs a ha).2.trans (ht a ha).2.symm
  rw [hgatewayState, hhighestNonce]

/-! ## The loop as a search -/

namespace Checker

variable (c agents)

/-- A queued state counts as its hash. -/
def key (x : State × List String) : Hashable := x.1.hashable agents

/-- The successors of a queued state, each with its trace. -/
def succ (x : State × List String) : List (State × List String) :=
  (getSuccessors c x.1 agents).map fun next => (next.2, x.2 ++ [next.1])

/-- The loop's search. -/
def search (k : Checker) : Search (State × List String) Hashable where
  queue := k.queue
  visited := k.visited

/-- The variables after some iterations. -/
def explored (n : ℕ) : Checker := (iterate c agents)^[n] (start agents)

variable {c agents}

theorem search_enqueue (trace : List String) (k : Checker) (next : String × State) :
    (k.enqueue agents trace next).search =
      k.search.visit (key agents) (next.2, trace ++ [next.1]) := by
  by_cases hseen : next.2.hashable agents ∈ k.visited
  · have hvisit : key agents (next.2, trace ++ [next.1]) ∈ k.search.visited := hseen
    rw [enqueue, if_pos hseen, Search.visit, if_pos hvisit]
  · have hvisit : key agents (next.2, trace ++ [next.1]) ∉ k.search.visited := hseen
    rw [enqueue, if_neg hseen, Search.visit, if_neg hvisit]
    rfl

theorem search_foldl (trace : List String) (k : Checker) (succs : List (String × State)) :
    (succs.foldl (enqueue agents trace) k).search =
      (succs.map fun next => (next.2, trace ++ [next.1])).foldl (Search.visit (key agents))
        k.search := by
  induction succs generalizing k with
  | nil => rfl
  | cons next succs ih =>
    rw [List.foldl_cons, ih, search_enqueue, List.map_cons, List.foldl_cons]

theorem search_iterate (k : Checker) :
    (k.iterate c agents).search = k.search.round (key agents) (succ c agents) := by
  obtain ⟨queue, visited, totalStates, deadlocks, replayViolations, satBoundsViolations⟩ := k
  cases queue with
  | nil => rfl
  | cons x queue =>
    obtain ⟨s, trace⟩ := x
    exact search_foldl trace _ _

variable (c agents) in
theorem search_explored (n : ℕ) :
    (explored c agents n).search =
      Search.after (key agents) (succ c agents) (State.new, []) n := by
  induction n with
  | zero => rfl
  | succ n ih =>
    rw [explored, Function.iterate_succ_apply', search_iterate, Search.after_succ, ← ih]
    rfl

variable (c agents) in
theorem queue_explored (n : ℕ) : (explored c agents n).queue =
    (Search.after (key agents) (succ c agents) (State.new, []) n).queue :=
  congrArg Search.queue (search_explored c agents n)

variable (c agents) in
theorem visited_explored (n : ℕ) : (explored c agents n).visited =
    (Search.after (key agents) (succ c agents) (State.new, []) n).visited :=
  congrArg Search.visited (search_explored c agents n)

/-! ## What the search reaches -/

/-- A queued state is reached as the simulator reaches it. -/
theorem reachable_of_reach {x : State × List String}
    (h : Search.Reach (succ c agents) (State.new, []) x) : (simulator c agents).Reachable x.1 := by
  induction h with
  | refl => exact System.Reachable.init rfl
  | @tail x y _ hy ih =>
    obtain ⟨next, hnext, rfl⟩ := List.mem_map.1 hy
    exact ih.step next.1 hnext

/-- Every reachable state is reached, under the trace of its run. -/
theorem exists_reach (h : (simulator c agents).Reachable s) :
    ∃ trace, Search.Reach (succ c agents) (State.new, []) (s, trace) := by
  refine h.invariant (I := fun s => ∃ trace,
    Search.Reach (succ c agents) (State.new, []) (s, trace)) (fun s hs => ?_) ?_
  · obtain rfl : s = State.new := hs
    exact ⟨[], .refl⟩
  · rintro name s s' ⟨trace, hs⟩ hnext
    exact ⟨trace ++ [name], hs.tail (List.mem_map.2 ⟨(name, s'), hnext, rfl⟩)⟩

variable (c agents) in
/-- The hashes of the reachable states. -/
def reachableHashes : Set Hashable :=
  {h | ∃ s, (simulator c agents).Reachable s ∧ s.hashable agents = h}

theorem reachedKeys_eq :
    Search.reachedKeys (key agents) (succ c agents) (State.new, []) =
      reachableHashes c agents := by
  ext h
  constructor
  · rintro ⟨x, hx, rfl⟩
    exact ⟨x.1, reachable_of_reach hx, rfl⟩
  · rintro ⟨s, hs, rfl⟩
    obtain ⟨trace, htrace⟩ := exists_reach hs
    exact ⟨(s, trace), htrace, rfl⟩

/-- Queued states with one hash are one state, so their successors are the
same but for the traces. -/
theorem congruent : Search.Congruent (key agents) (succ c agents) (State.new, []) := by
  rintro ⟨s, trace⟩ ⟨t, trace'⟩ hs ht hkey x hx
  have hs' := outside_of_reachable (reachable_of_reach hs)
  have ht' := outside_of_reachable (reachable_of_reach ht)
  obtain rfl : s = t := eq_of_hashable_eq hs' ht' hkey
  obtain ⟨next, hnext, rfl⟩ := List.mem_map.1 hx
  exact ⟨(next.2, trace' ++ [next.1]), List.mem_map.2 ⟨next, hnext, rfl⟩, rfl⟩

/-! ## Where the loop ends -/

/-- What the loop returns are its variables once the queue is empty. -/
theorem loop_eq_some {fuel : ℕ} {k k' : Checker} (h : k.loop c agents fuel = some k') :
    ∃ n, k' = (iterate c agents)^[n] k ∧ k'.queue = [] ∧
      ∀ m < n, ((iterate c agents)^[m] k).queue ≠ [] := by
  induction fuel generalizing k with
  | zero => cases h
  | succ fuel ih =>
    rw [loop] at h
    split at h
    · rename_i hempty
      obtain rfl := Option.some.inj h
      exact ⟨0, rfl, List.isEmpty_iff.1 hempty, fun m hm => absurd hm (Nat.not_lt_zero m)⟩
    · rename_i hbusy
      obtain ⟨n, hn, hdone, hbefore⟩ := ih h
      refine ⟨n + 1, hn, hdone, fun m hm => ?_⟩
      cases m with
      | zero => exact fun hempty => hbusy (List.isEmpty_iff.2 hempty)
      | succ m => exact hbefore m (by omega)

theorem exists_loop_eq_some {k : Checker} {n : ℕ}
    (h : ((iterate c agents)^[n] k).queue = []) : ∃ fuel k', k.loop c agents fuel = some k' := by
  induction n generalizing k with
  | zero =>
    have hempty : k.queue.isEmpty = true := List.isEmpty_iff.2 h
    exact ⟨1, k, by rw [loop, if_pos hempty]⟩
  | succ n ih =>
    obtain ⟨fuel, k', hk'⟩ := ih h
    by_cases hempty : k.queue.isEmpty = true
    · exact ⟨1, k, by rw [loop, if_pos hempty]⟩
    · exact ⟨fuel + 1, k', by rw [loop, if_neg hempty, hk']⟩

theorem exists_explored {fuel : ℕ} {k : Checker} (h : runModelChecker c agents fuel = some k) :
    ∃ n, k = explored c agents n ∧ (explored c agents n).queue = [] ∧
      ∀ m < n, (explored c agents m).queue ≠ [] := by
  obtain ⟨n, rfl, hdone, hbusy⟩ := loop_eq_some h
  exact ⟨n, rfl, hdone, hbusy⟩

variable (c agents) in
/-- `run_model_checker` returns. -/
def Returns : Prop := ∃ fuel k, runModelChecker c agents fuel = some k

theorem returns_iff_done : Returns c agents ↔ ∃ n, (explored c agents n).queue = [] := by
  constructor
  · rintro ⟨fuel, k, hk⟩
    obtain ⟨n, -, hdone, -⟩ := exists_explored hk
    exact ⟨n, hdone⟩
  · rintro ⟨n, hdone⟩
    exact exists_loop_eq_some hdone

/-- **The checker returns exactly where finitely many states are
reachable.** -/
theorem returns_iff_finite : Returns c agents ↔ (reachableHashes c agents).Finite := by
  simp only [returns_iff_done, queue_explored]
  rw [Search.exists_done_iff_finite congruent, reachedKeys_eq]

end Checker

/-! ## How many states are reachable -/

theorem reachable_of_step (h : (simulator c agents).Reachable s) (hstep : Step c agents s s') :
    (simulator c agents).Reachable s' := by
  obtain ⟨name, hname⟩ := listed_of_step hstep
  exact h.step name hname

/-- Handshakes pile up. -/
theorem exists_reachable_messages (ha : a ∈ agents) (hnonce : 1 ≤ c.maxNonce) (n : ℕ) :
    ∃ s, (simulator c agents).Reachable s ∧ s.messages.length = n := by
  induction n with
  | zero => exact ⟨State.new, System.Reachable.init rfl, rfl⟩
  | succ n ih =>
    obtain ⟨s, hs, hlength⟩ := ih
    refine ⟨_, reachable_of_step hs (.agentSendHandshake a ha 1 ⟨le_rfl, hnonce⟩), ?_⟩
    rw [State.send, List.length_append, hlength, List.length_singleton]

/-- Tokens pile up before the clock first ticks. -/
theorem exists_reachable_sats (ha : a ∈ agents) (htime : 1 ≤ c.maxTime) (n : ℕ) :
    ∃ s, (simulator c agents).Reachable s ∧ s.clock = 0 ∧ s.satRegistry.length = n := by
  induction n with
  | zero => exact ⟨State.new, System.Reachable.init rfl, rfl, rfl⟩
  | succ n ih =>
    obtain ⟨s, hs, hclock, hlength⟩ := ih
    have hexp : s.clock < 1 ∧ 1 ≤ c.maxTime := ⟨by omega, htime⟩
    refine ⟨_, reachable_of_step hs (.agentRequestIntent a ha 1 hexp), hclock, ?_⟩
    rw [List.length_append, hlength, List.length_singleton]

/-- What takes every value on the reachable states has infinitely many of
them to take it on. -/
theorem infinite_of_unbounded (f : Hashable → ℕ)
    (h : ∀ n, ∃ s, (simulator c agents).Reachable s ∧ f (s.hashable agents) = n) :
    (Checker.reachableHashes c agents).Infinite := by
  intro hfinite
  refine Set.infinite_univ ((hfinite.image f).subset fun n _ => ?_)
  obtain ⟨s, hs, rfl⟩ := h n
  exact ⟨s.hashable agents, ⟨s, hs, rfl⟩, rfl⟩

theorem infinite_of_maxNonce (ha : a ∈ agents) (hnonce : 1 ≤ c.maxNonce) :
    (Checker.reachableHashes c agents).Infinite := by
  refine infinite_of_unbounded (fun h => h.messages.length) fun n => ?_
  obtain ⟨s, hs, hlength⟩ := exists_reachable_messages ha hnonce n
  exact ⟨s, hs, by rw [State.hashable, List.length_map, hlength]⟩

theorem infinite_of_maxTime (ha : a ∈ agents) (htime : 1 ≤ c.maxTime) :
    (Checker.reachableHashes c agents).Infinite := by
  refine infinite_of_unbounded (fun h => h.satRegistry.length) fun n => ?_
  obtain ⟨s, hs, -, hlength⟩ := exists_reachable_sats ha htime n
  exact ⟨s, hs, by rw [State.hashable, List.length_map, hlength]⟩

/-- No agent can do anything: there is none, or no nonce to send and no
expiry to request. -/
def Idle (c : Constants) (agents : List String) : Prop :=
  agents = [] ∨ c.maxNonce < 1 ∧ c.maxTime < 1

/-- Nothing happened but that time passed, and that the byzantine flag may
be set. -/
structure Untouched (c : Constants) (s : State) : Prop where
  gatewayState : s.gatewayState = fun _ => .listen
  highestNonce : s.highestNonce = fun _ => 0
  satRegistry : s.satRegistry = []
  messages : s.messages = []
  clock : 0 ≤ s.clock ∧ s.clock ≤ max 0 c.maxTime

theorem Untouched.step (hidle : Idle c agents) (hs : Untouched c s) (h : Step c agents s s') :
    Untouched c s' := by
  have hgateway : ∀ a, s.gatewayState a = .listen := fun a => congrFun hs.gatewayState a
  have hnone : ∀ m, m ∉ s.messages := by
    intro m hm
    rw [hs.messages] at hm
    cases hm
  have hclock := hs.clock
  -- only the clock and the flag can move: the rest wants an agent that acts, a pending
  -- message, or a gateway that left LISTEN
  cases h with
  | tickClock h =>
    refine ⟨hs.gatewayState, hs.highestNonce, hs.satRegistry, hs.messages, ?_⟩
    show 0 ≤ s.clock + 1 ∧ s.clock + 1 ≤ max 0 c.maxTime
    omega
  | byzantineTrigger h =>
    exact ⟨hs.gatewayState, hs.highestNonce, hs.satRegistry, hs.messages, hs.clock⟩
  | agentRequestIntent a ha exp h =>
    rcases hidle with rfl | ⟨-, htime⟩
    · cases ha
    · omega
  | agentSendHandshake a ha nonce h =>
    rcases hidle with rfl | ⟨hnonce, -⟩
    · cases ha
    · omega
  | maliciousReplay a ha m hm => exact absurd hm (hnone m)
  | stateCorruption a ha h =>
    rw [hgateway] at h
    rcases h with h | h <;> cases h
  | gatewayRecoverCorruption a ha h =>
    rw [hgateway] at h
    cases h
  | gatewayReceiveKnk a ha m hm h => exact absurd hm (hnone m)
  | gatewayParseSig m ha hm h => exact absurd hm (hnone m)
  | gatewayVerifySat m ha hm sat hsat h => exact absurd hm (hnone m)
  | gatewayEvaluateMama a ha score hscore h =>
    rw [hgateway] at h
    cases h

theorem untouched_of_reachable (hidle : Idle c agents) (h : (simulator c agents).Reachable s) :
    Untouched c s := by
  refine h.invariant ?_ ?_
  · intro s hs
    obtain rfl : s = State.new := hs
    exact ⟨rfl, rfl, rfl, rfl, le_rfl, le_max_left _ _⟩
  · intro name s s' hs hnext
    exact hs.step hidle (step_of_mem hnext)

/-- Where no agent can do anything, a state is its time and its flag. -/
theorem finite_of_idle (hidle : Idle c agents) : (Checker.reachableHashes c agents).Finite := by
  have hfinite : (Set.Icc 0 (max 0 c.maxTime) ×ˢ (Set.univ : Set Bool)).Finite :=
    (Set.finite_Icc _ _).prod Set.finite_univ
  refine (hfinite.image fun x => ({ State.new with
    clock := x.1, byzantineActive := x.2 } : State).hashable agents).subset ?_
  rintro h ⟨s, hs, rfl⟩
  have huntouched := untouched_of_reachable hidle hs
  refine ⟨(s.clock, s.byzantineActive), ⟨huntouched.clock, Set.mem_univ _⟩, ?_⟩
  obtain ⟨gatewayState, highestNonce, satRegistry, messages, clock, byzantineActive⟩ := s
  obtain ⟨rfl, rfl, rfl, rfl, -⟩ := huntouched
  rfl

theorem finite_iff_idle : (Checker.reachableHashes c agents).Finite ↔ Idle c agents := by
  refine ⟨fun hfinite => ?_, finite_of_idle⟩
  by_contra hactive
  cases agents with
  | nil => exact hactive (Or.inl rfl)
  | cons a agents =>
    have ha : a ∈ a :: agents := List.mem_cons_self
    by_cases hnonce : 1 ≤ c.maxNonce
    · exact infinite_of_maxNonce ha hnonce hfinite
    · by_cases htime : 1 ≤ c.maxTime
      · exact infinite_of_maxTime ha htime hfinite
      · exact hactive (Or.inr (by omega))

/-- **The model checker terminates** exactly where there is no agent, or
neither a nonce to send nor an expiry to request: elsewhere infinitely many
states are reachable, and it does not return. -/
theorem returns_iff (c : Constants) (agents : List String) :
    ((Checker.reachableHashes c agents).Finite ↔
      agents = [] ∨ c.maxNonce < 1 ∧ c.maxTime < 1) ∧
    (Checker.Returns c agents ↔ agents = [] ∨ c.maxNonce < 1 ∧ c.maxTime < 1) :=
  ⟨finite_iff_idle, Checker.returns_iff_finite.trans finite_iff_idle⟩

/-- **With the configured agents and bounds it never returns.** -/
theorem not_returns_checkedBounds :
    ¬ (Checker.reachableHashes checkedBounds ["Agent1"]).Finite ∧
      ¬ Checker.Returns checkedBounds ["Agent1"] := by
  have hinfinite : (Checker.reachableHashes checkedBounds ["Agent1"]).Infinite :=
    infinite_of_maxNonce (List.mem_singleton_self "Agent1") (by decide)
  exact ⟨hinfinite, fun hreturns => hinfinite (Checker.returns_iff_finite.1 hreturns)⟩

/-! ## What it reports -/

namespace Checker

/-- The counters. -/
def counters (k : Checker) : ℕ × ℕ × ℕ × ℕ :=
  (k.totalStates, k.deadlocks, k.replayViolations, k.satBoundsViolations)

theorem counters_foldl (trace : List String) (k : Checker) (succs : List (String × State)) :
    (succs.foldl (enqueue agents trace) k).counters = k.counters := by
  induction succs generalizing k with
  | nil => rfl
  | cons next succs ih =>
    rw [List.foldl_cons, ih]
    by_cases hseen : next.2.hashable agents ∈ k.visited
    · rw [enqueue, if_pos hseen]
    · rw [enqueue, if_neg hseen]
      rfl

/-- Before the end of the time bound there is a successor. -/
theorem maxTime_le_clock (h : getSuccessors c s agents = []) : c.maxTime ≤ s.clock := by
  by_contra hclock
  have hstep : Step c agents s _ := .tickClock (not_le.1 hclock)
  obtain ⟨name, hname⟩ := listed_of_step hstep
  rw [h] at hname
  cases hname

/-- **What an iteration counts.** No state counts as a deadlock. -/
theorem counters_iterate {k : Checker} {trace : List String} {queue : List (State × List String)}
    (hqueue : k.queue = (s, trace) :: queue) :
    (k.iterate c agents).counters =
      (k.totalStates + 1, k.deadlocks, k.replayViolations + replayViolationsIn agents s,
        k.satBoundsViolations + satBoundsViolationsIn agents s) := by
  unfold iterate
  rw [hqueue]
  dsimp only
  rw [counters_foldl]
  by_cases hnone : getSuccessors c s agents = []
  · simp only [counters, hnone, maxTime_le_clock hnone, and_self, if_true]
  · simp only [counters, hnone, false_and, if_false]

theorem replayViolationsIn_of_untouched (hs : Untouched c s) : replayViolationsIn agents s = 0 := by
  simp [replayViolationsIn, hs.messages]

theorem satBoundsViolationsIn_of_untouched (hs : Untouched c s) :
    satBoundsViolationsIn agents s = 0 := by
  simp [satBoundsViolationsIn, hs.gatewayState]

/-- What is queued is reachable. -/
theorem reachable_of_queued {n : ℕ} {trace : List String}
    (h : (s, trace) ∈ (explored c agents n).queue) : (simulator c agents).Reachable s := by
  rw [queue_explored] at h
  exact reachable_of_reach ((Search.explores_after _ _ _ n).reach _ h)

/-- Where no agent can do anything, only the states are counted. -/
theorem counters_explored (hidle : Idle c agents) {n : ℕ}
    (hbusy : ∀ m < n, (explored c agents m).queue ≠ []) :
    (explored c agents n).counters = (n, 0, 0, 0) := by
  induction n with
  | zero => rfl
  | succ n ih =>
    have hcounters := ih fun m hm => hbusy m (by omega)
    rcases hqueue : (explored c agents n).queue with _ | ⟨⟨s, trace⟩, queue⟩
    · exact absurd hqueue (hbusy n (Nat.lt_succ_self n))
    · have hs : Untouched c s := untouched_of_reachable hidle
        (reachable_of_queued (by rw [hqueue]; exact List.mem_cons_self))
      simp only [counters, Prod.mk.injEq] at hcounters
      obtain ⟨htotal, hdeadlocks, hreplay, hsats⟩ := hcounters
      rw [explored, Function.iterate_succ_apply', ← explored, counters_iterate hqueue,
        replayViolationsIn_of_untouched hs, satBoundsViolationsIn_of_untouched hs, htotal,
        hdeadlocks, hreplay, hsats]

/-- **What a checker that returns has checked.** It explored all reachable
states, each once, and found nothing: it returns only where no agent can do
anything. -/
theorem report_of_returns {fuel : ℕ} {k : Checker} (h : runModelChecker c agents fuel = some k) :
    (k.visited : Set Hashable) = reachableHashes c agents ∧
      k.counters = (k.visited.card, 0, 0, 0) := by
  have hidle : Idle c agents := finite_iff_idle.1 (returns_iff_finite.1 ⟨fuel, k, h⟩)
  obtain ⟨n, rfl, hdone, hbusy⟩ := exists_explored h
  simp only [queue_explored] at hdone
  constructor
  · rw [visited_explored, Search.visited_of_done congruent hdone, reachedKeys_eq]
  · rw [counters_explored hidle hbusy, visited_explored]
    simp only [queue_explored] at hbusy
    rw [← Search.rounds_eq_card hbusy hdone]

end Checker

end Simulator

end ThreatModel

end NhpSba
