import Mathlib.Data.Int.Interval
import Mathlib.Order.Interval.Finset.Basic
import NhpSba.ThreatModel.Gateway
import NhpSba.ThreatModel.Model.Simulator
/-!
# Threat model — no nonce is admitted twice

An agent's counter rises only as a pending message of its own is admitted,
to that message's nonce and from below it. Corruption and recovery do not
touch it, and a replay has the nonce of what it repeats. So the nonces
admitted for an agent along a run increase, and there are no more of them
than nonces that can be sent (`admissions_of_run`).
-/

namespace NhpSba

namespace ThreatModel

namespace Simulator

variable {c : Constants} {agents : List String} {a : String} {name : String} {s s' : State}
  {ts : List (State × String × State)}

/-! ## What a step does -/

section

variable (c agents)

/-- The steps of the simulator, without their names. -/
inductive Step : State → State → Prop
  | tickClock {s : State} (h : s.clock < c.maxTime) : Step s { s with clock := s.clock + 1 }
  | byzantineTrigger {s : State} (h : s.byzantineActive = false) :
      Step s { s with byzantineActive := true }
  | agentRequestIntent {s : State} (a : String) (ha : a ∈ agents) (exp : ℤ)
      (h : s.clock < exp ∧ exp ≤ c.maxTime) :
      Step s { s with
        satRegistry := s.satRegistry ++ [{ agent := a, exp, intent := .beamform, active := true }] }
  | agentSendHandshake {s : State} (a : String) (ha : a ∈ agents) (nonce : ℤ)
      (h : 1 ≤ nonce ∧ nonce ≤ c.maxNonce) :
      Step s (s.send { type := .knk, agent := a, nonce, intent := .beamform, isReplay := false })
  | maliciousReplay {s : State} (a : String) (ha : a ∈ agents) (m : Message)
      (hm : m ∈ s.messages) : Step s (s.send { m with isReplay := true })
  | stateCorruption {s : State} (a : String) (ha : a ∈ agents)
      (h : s.gatewayState a = .parseSig ∨ s.gatewayState a = .verifySat) :
      Step s (s.setGateway a .corrupted)
  | gatewayRecoverCorruption {s : State} (a : String) (ha : a ∈ agents)
      (h : s.gatewayState a = .corrupted) : Step s (s.setGateway a .listen)
  | gatewayReceiveKnk {s : State} (a : String) (ha : a ∈ agents) (m : Message)
      (hm : m ∈ s.messages)
      (h : s.gatewayState m.agent = .listen ∨ s.gatewayState m.agent = .corrupted) :
      Step s (s.setGateway m.agent .parseSig)
  | gatewayParseSig {s : State} (m : Message) (ha : m.agent ∈ agents) (hm : m ∈ s.messages)
      (h : s.gatewayState m.agent = .parseSig) :
      Step s (if s.highestNonce m.agent < m.nonce then
        { s with highestNonce := Function.update s.highestNonce m.agent m.nonce }.setGateway
          m.agent .verifySat
        else s.setGateway m.agent .listen)
  | gatewayVerifySat {s : State} (m : Message) (ha : m.agent ∈ agents) (hm : m ∈ s.messages)
      (sat : Sat) (hsat : sat ∈ s.satRegistry ∧ sat.agent = m.agent ∧ sat.intent = m.intent)
      (h : s.gatewayState m.agent = .verifySat) :
      Step s (if s.clock < sat.exp then s.setGateway m.agent .evaluateMama
        else s.setGateway m.agent .listen)
  | gatewayEvaluateMama {s : State} (a : String) (ha : a ∈ agents) (score : ℤ)
      (hscore : score = 0 ∨ score = 90) (h : s.gatewayState a = .evaluateMama) :
      Step s (if s.byzantineActive ∨ c.minSafetyScore ≤ score then s.setGateway a .established
        else s.setGateway a .listen)

end

/-- Every successor is what a step leads to. -/
theorem step_of_mem (h : (name, s') ∈ getSuccessors c s agents) : Step c agents s s' := by
  simp only [getSuccessors, List.mem_append, List.mem_flatMap] at h
  -- one case for each share of the list, in its order
  rcases h with (h | h) | ⟨a, ha, ((((((((h | h) | h) | h) | h) | h) | h) | h) | h)⟩
  · simp only [tickClock, List.mem_ite_nil_right, List.mem_singleton, Prod.mk.injEq] at h
    obtain ⟨hclock, -, rfl⟩ := h
    exact .tickClock hclock
  · simp only [byzantineTrigger, List.mem_ite_nil_right, List.mem_singleton, Prod.mk.injEq,
      Bool.not_eq_true'] at h
    obtain ⟨hhonest, -, rfl⟩ := h
    exact .byzantineTrigger hhonest
  · simp only [agentRequestIntent, List.mem_flatMap, Int.mem_range_iff, List.map_cons,
      List.map_nil, List.mem_singleton, Prod.mk.injEq] at h
    obtain ⟨exp, hexp, -, rfl⟩ := h
    exact .agentRequestIntent a ha exp (by omega)
  · simp only [agentSendHandshake, List.mem_map, Int.mem_range_iff, Prod.mk.injEq] at h
    obtain ⟨nonce, hnonce, -, rfl⟩ := h
    exact .agentSendHandshake a ha nonce (by omega)
  · simp only [maliciousReplay, List.mem_map, Prod.mk.injEq] at h
    obtain ⟨m, hm, -, rfl⟩ := h
    exact .maliciousReplay a ha m hm
  · simp only [stateCorruption, List.mem_ite_nil_right, List.mem_cons, List.not_mem_nil, or_false,
      Prod.mk.injEq] at h
    obtain ⟨hstate, -, rfl⟩ := h
    exact .stateCorruption a ha hstate
  · simp only [gatewayRecoverCorruption, List.mem_ite_nil_right, List.mem_singleton,
      Prod.mk.injEq] at h
    obtain ⟨hstate, -, rfl⟩ := h
    exact .gatewayRecoverCorruption a ha hstate
  · simp only [gatewayReceiveKnk, List.mem_flatMap, List.mem_ite_nil_right, List.mem_cons,
      List.not_mem_nil, or_false, Prod.mk.injEq] at h
    obtain ⟨m, hm, ⟨-, hstate⟩, -, rfl⟩ := h
    exact .gatewayReceiveKnk a ha m hm hstate
  · simp only [gatewayParseSig, List.mem_flatMap, List.mem_ite_nil_right, List.mem_singleton,
      Prod.mk.injEq] at h
    obtain ⟨hstate, m, hm, rfl, -, rfl⟩ := h
    exact .gatewayParseSig m ha hm hstate
  · simp only [gatewayVerifySat, List.mem_flatMap, List.mem_ite_nil_right, List.mem_singleton,
      Prod.mk.injEq] at h
    obtain ⟨hstate, m, hm, rfl, sat, hsat, hmatch, -, rfl⟩ := h
    exact .gatewayVerifySat m ha hm sat ⟨hsat, hmatch.1, rfl⟩ hstate
  · simp only [gatewayEvaluateMama, List.mem_ite_nil_right, List.mem_map, List.mem_cons,
      List.not_mem_nil, or_false, Prod.mk.injEq] at h
    obtain ⟨hstate, score, hscore, -, rfl⟩ := h
    exact .gatewayEvaluateMama a ha score hscore hstate

section

variable (c agents)

/-- The state is listed, under some name. -/
def Listed (s s' : State) : Prop := ∃ name, (name, s') ∈ getSuccessors c s agents

variable (a s)

/-- What the loop lists for an agent. -/
def actions : List (List (String × State)) :=
  [agentRequestIntent c a s, agentSendHandshake c a s, maliciousReplay a s, stateCorruption a s,
    gatewayRecoverCorruption a s, gatewayReceiveKnk s, gatewayParseSig a s, gatewayVerifySat a s,
    gatewayEvaluateMama c a s]

end

theorem listed_of_action (l : List (String × State)) (hl : l ∈ actions c a s) (ha : a ∈ agents)
    (h : ∃ name, (name, s') ∈ l) : Listed c agents s s' := by
  obtain ⟨name, h⟩ := h
  refine ⟨name, List.mem_append_right _ (List.mem_flatMap.2 ⟨a, ha, ?_⟩)⟩
  have hflatten := List.mem_flatten.2 ⟨l, hl, h⟩
  simpa only [actions, List.flatten_cons, List.flatten_nil, List.append_nil, List.append_assoc]
    using hflatten

/-- Every step leads to a successor, under the name of its action. -/
theorem listed_of_step (h : Step c agents s s') : Listed c agents s s' := by
  cases h with
  | tickClock h =>
    refine ⟨"TickClock", List.mem_append_left _ (List.mem_append_left _ ?_)⟩
    exact List.mem_ite_nil_right.2 ⟨h, List.mem_singleton.2 rfl⟩
  | byzantineTrigger h =>
    refine ⟨"ByzantineTrigger", List.mem_append_left _ (List.mem_append_right _ ?_)⟩
    exact List.mem_ite_nil_right.2 ⟨by rw [h]; rfl, List.mem_singleton.2 rfl⟩
  | agentRequestIntent a ha exp h =>
    have hexp := Int.mem_range_iff.2 ⟨h.1, Int.lt_add_one_of_le h.2⟩
    exact listed_of_action (agentRequestIntent c a s) (by simp [actions]) ha
      ⟨_, List.mem_flatMap.2 ⟨exp, hexp, List.mem_singleton.2 rfl⟩⟩
  | agentSendHandshake a ha nonce h =>
    have hnonce := Int.mem_range_iff.2 ⟨h.1, Int.lt_add_one_of_le h.2⟩
    exact listed_of_action (agentSendHandshake c a s) (by simp [actions]) ha
      ⟨_, List.mem_map.2 ⟨nonce, hnonce, rfl⟩⟩
  | maliciousReplay a ha m hm =>
    exact listed_of_action (maliciousReplay a s) (by simp [actions]) ha
      ⟨_, List.mem_map.2 ⟨m, hm, rfl⟩⟩
  | stateCorruption a ha h =>
    have hstate : s.gatewayState a ∈ [GatewayState.parseSig, .verifySat] := by simpa using h
    exact listed_of_action (stateCorruption a s) (by simp [actions]) ha
      ⟨_, List.mem_ite_nil_right.2 ⟨hstate, List.mem_singleton.2 rfl⟩⟩
  | gatewayRecoverCorruption a ha h =>
    exact listed_of_action (gatewayRecoverCorruption a s) (by simp [actions]) ha
      ⟨_, List.mem_ite_nil_right.2 ⟨h, List.mem_singleton.2 rfl⟩⟩
  | gatewayReceiveKnk a ha m hm h =>
    have hstate : s.gatewayState m.agent ∈ [GatewayState.listen, .corrupted] := by simpa using h
    exact listed_of_action (gatewayReceiveKnk s) (by simp [actions]) ha
      ⟨_, List.mem_flatMap.2 ⟨m, hm,
        List.mem_ite_nil_right.2 ⟨⟨rfl, hstate⟩, List.mem_singleton.2 rfl⟩⟩⟩
  | gatewayParseSig m ha hm h =>
    exact listed_of_action (gatewayParseSig m.agent s) (by simp [actions]) ha
      ⟨_, List.mem_ite_nil_right.2 ⟨h, List.mem_flatMap.2 ⟨m, hm,
        List.mem_ite_nil_right.2 ⟨rfl, List.mem_singleton.2 rfl⟩⟩⟩⟩
  | gatewayVerifySat m ha hm sat hsat h =>
    exact listed_of_action (gatewayVerifySat m.agent s) (by simp [actions]) ha
      ⟨_, List.mem_ite_nil_right.2 ⟨h, List.mem_flatMap.2 ⟨m, hm,
        List.mem_ite_nil_right.2 ⟨rfl, List.mem_flatMap.2 ⟨sat, hsat.1,
          List.mem_ite_nil_right.2 ⟨hsat.2, List.mem_singleton.2 rfl⟩⟩⟩⟩⟩⟩
  | gatewayEvaluateMama a ha score hscore h =>
    have hmem : score ∈ [(0 : ℤ), 90] := by simpa using hscore
    exact listed_of_action (gatewayEvaluateMama c a s) (by simp [actions]) ha
      ⟨_, List.mem_ite_nil_right.2 ⟨h, List.mem_map.2 ⟨score, hmem, rfl⟩⟩⟩

/-- **What `get_successors` lists** is what the steps lead to. -/
theorem listed_iff : Listed c agents s s' ↔ Step c agents s s' := by
  constructor
  · rintro ⟨name, h⟩
    exact step_of_mem h
  · exact listed_of_step

/-! ## Admissions -/

instance : Gateway State String where
  gatewayState := State.gatewayState
  highestNonce := State.highestNonce
  HasMessage s a n := ∃ m ∈ s.messages, m.agent = a ∧ m.nonce = n
  HasToken s exp := ∃ sat ∈ s.satRegistry, sat.exp = exp
  clock := State.clock

/-- The messages pending are of agents of the list, under nonces that can
be sent. -/
def Pending (c : Constants) (agents : List String) (s : State) : Prop :=
  ∀ m ∈ s.messages, m.agent ∈ agents ∧ 1 ≤ m.nonce ∧ m.nonce ≤ c.maxNonce

theorem Pending.step (hs : Pending c agents s) (h : Step c agents s s') : Pending c agents s' := by
  cases h with
  | agentSendHandshake a ha nonce h =>
    intro m hm
    rcases List.mem_append.1 hm with hm | hm
    · exact hs m hm
    · obtain rfl := List.mem_singleton.1 hm
      exact ⟨ha, h⟩
  | maliciousReplay a ha m hm =>
    intro m' hm'
    rcases List.mem_append.1 hm' with hm' | hm'
    · exact hs m' hm'
    · obtain rfl := List.mem_singleton.1 hm'
      -- the copy keeps the agent and the nonce
      exact hs m hm
  | gatewayParseSig m ha hm h => split <;> exact hs
  | gatewayVerifySat m ha hm sat hsat h => split <;> exact hs
  | gatewayEvaluateMama a ha score hscore h => split <;> exact hs
  | _ => exact hs

theorem pending_of_reachable (h : (simulator c agents).Reachable s) : Pending c agents s := by
  refine h.invariant ?_ ?_
  · rintro s rfl m hm
    cases hm
  · intro name s s' hs hnext
    exact hs.step (step_of_mem hnext)

/-- A step leaves an agent alone or admits a pending message of its own. -/
theorem step_agent (h : Step c agents s s') (a : String) : ActsOn a s s' := by
  cases h with
  | stateCorruption b hb h => exact Or.inr ⟨rfl, verifySat_of_update (by decide)⟩
  | gatewayRecoverCorruption b hb h => exact Or.inr ⟨rfl, verifySat_of_update (by decide)⟩
  | gatewayReceiveKnk b hb m hm h => exact Or.inr ⟨rfl, verifySat_of_update (by decide)⟩
  | gatewayParseSig m hb hm h =>
    split
    · next hnew =>
      -- the message is of this agent, or moves another
      by_cases hagent : m.agent = a
      · subst hagent
        exact Or.inl ⟨_, ⟨m, hm, rfl, rfl⟩, hnew, Function.update_self ..⟩
      · have hother := Ne.symm hagent
        refine Or.inr ⟨Function.update_of_ne hother .., fun hafter => ?_⟩
        exact (Function.update_of_ne hother ..).symm.trans hafter
    · exact Or.inr ⟨rfl, verifySat_of_update (by decide)⟩
  | gatewayVerifySat m hb hm sat hsat h =>
    split
    · exact Or.inr ⟨rfl, verifySat_of_update (by decide)⟩
    · exact Or.inr ⟨rfl, verifySat_of_update (by decide)⟩
  | gatewayEvaluateMama b hb score hscore h =>
    split
    · exact Or.inr ⟨rfl, verifySat_of_update (by decide)⟩
    · exact Or.inr ⟨rfl, verifySat_of_update (by decide)⟩
  | _ => exact Or.inr ⟨rfl, id⟩

/-- **No nonce is admitted twice.** Along every run the nonces admitted for
an agent increase; so each is admitted at most once, and an agent is
admitted at most `MaxNonce` times. Each is the nonce of a pending message
of the agent. -/
theorem admissions_of_run (c : Constants) (agents : List String)
    {ts : List (State × String × State)} {s : State} (h : (simulator c agents).Run ts s)
    (a : String) :
    (admissions a ts).Pairwise (· < ·) ∧ (admissions a ts).Nodup ∧
      (admissions a ts).length ≤ c.maxNonce.toNat ∧
      ∀ t ∈ ts, ∀ n, admittedNonce a t = some n →
        ∃ m ∈ t.1.messages, m.agent = a ∧ m.nonce = n := by
  have hadmits : ∀ t ∈ ts, ∀ n, admittedNonce a t = some n →
      ∃ m ∈ t.1.messages, m.agent = a ∧ m.nonce = n := by
    rintro ⟨s, name, s'⟩ ht n hn
    obtain ⟨-, hnext⟩ := h.step_of_mem ht
    exact ((step_agent (step_of_mem hnext) a).admits hn).1
  have hincreasing : (admissions a ts).Pairwise (· < ·) :=
    admissions_increasing (fun name s s' hnext => step_agent (step_of_mem hnext) a) h
  have hnodup : (admissions a ts).Nodup := hincreasing.imp fun hlt => ne_of_lt hlt
  refine ⟨hincreasing, hnodup, ?_, hadmits⟩
  -- the nonces admitted are among those that can be sent
  have hsubset : (admissions a ts).toFinset ⊆ Finset.Icc 1 c.maxNonce := by
    intro n hn
    obtain ⟨t, ht, hadmitted⟩ := List.mem_filterMap.1 (List.mem_toFinset.1 hn)
    obtain ⟨m, hm, -, rfl⟩ := hadmits t ht n hadmitted
    obtain ⟨-, hbounds⟩ := pending_of_reachable (h.step_of_mem ht).1 m hm
    exact Finset.mem_Icc.2 hbounds
  calc (admissions a ts).length = (admissions a ts).toFinset.card :=
        (List.toFinset_card_of_nodup hnodup).symm
    _ ≤ (Finset.Icc 1 c.maxNonce).card := Finset.card_le_card hsubset
    _ = c.maxNonce.toNat := by rw [Int.card_Icc, Int.add_sub_cancel]

/-! ## A run with a replay -/

theorem exists_run_step (h : (simulator c agents).Run ts s) (hstep : Step c agents s s') :
    ∃ name, (simulator c agents).Run (ts ++ [(s, name, s')]) s' := by
  obtain ⟨name, hname⟩ := listed_of_step hstep
  exact ⟨name, h.step name hname⟩

/-- A handshake of the one agent. -/
def handshake : Message where
  type := .knk
  agent := "Agent1"
  nonce := 1
  intent := .beamform
  isReplay := false

/-- The gateway is corrupted once the handshake was admitted, and receives
it again after a replay: it was admitted once. -/
theorem admissions_of_run_replayed : ∃ ts s,
    (simulator checkedBounds ["Agent1"]).Run ts s ∧
      s.messages = [handshake, { handshake with isReplay := true }] ∧
      admissions "Agent1" ts = [1] ∧ (admissions "Agent1" ts).Nodup := by
  have hagent : handshake.agent ∈ ["Agent1"] := List.mem_cons_self ..
  have hinit : (simulator checkedBounds ["Agent1"]).Run [] State.new := .init rfl
  obtain ⟨_, hsend⟩ := exists_run_step hinit (.agentSendHandshake "Agent1" hagent 1 (by decide))
  obtain ⟨_, hreceive⟩ := exists_run_step hsend
    (.gatewayReceiveKnk "Agent1" hagent handshake (List.mem_cons_self ..) (Or.inl rfl))
  obtain ⟨_, hparse⟩ := exists_run_step hreceive
    (.gatewayParseSig handshake hagent (List.mem_cons_self ..) rfl)
  obtain ⟨_, hcorrupt⟩ := exists_run_step hparse (.stateCorruption "Agent1" hagent (Or.inr rfl))
  obtain ⟨_, hreplay⟩ := exists_run_step hcorrupt
    (.maliciousReplay "Agent1" hagent handshake (List.mem_cons_self ..))
  obtain ⟨_, hagain⟩ := exists_run_step hreplay
    (.gatewayReceiveKnk "Agent1" hagent handshake (List.mem_cons_self ..) (Or.inr rfl))
  -- its nonce is no longer above the counter
  obtain ⟨_, hrefused⟩ := exists_run_step hagain
    (.gatewayParseSig handshake hagent (List.mem_cons_self ..) rfl)
  refine ⟨_, _, hrefused, rfl, rfl, ?_⟩
  exact (admissions_of_run checkedBounds ["Agent1"] hrefused "Agent1").2.1

end Simulator

end ThreatModel

end NhpSba
