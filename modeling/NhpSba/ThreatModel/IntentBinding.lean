import NhpSba.ThreatModel.Gateway
import NhpSba.ThreatModel.Model.Formal
/-!
# Threat model — which intent an established session was authorised for

The message whose nonce was accepted and the message whose intent has a
token are picked by two steps of the gateway, and need not be one
(`intent_unbound`). Where every `GatewayVerifySAT` picks a message with the
intent of one whose nonce was accepted, the intents of established sessions
are authorised (`intentBound_of_run`): what that step checks stays true
until the session is established, since tokens and messages are never
removed and the counter stands still.
-/

namespace NhpSba

namespace ThreatModel

namespace Formal

variable {Agent : Type*} [DecidableEq Agent] {c : Constants} {i : Action Agent}
  {s s' : State Agent}

/-! ## What a step does -/

/-- The agent whose gateway state an action moves. -/
def Action.moves : Action Agent → Option Agent
  | .gatewayReceiveKnk m => some m.agent
  | .gatewayParseSig a _ => some a
  | .gatewayVerifySat a _ _ => some a
  | .gatewayEvaluateMama a => some a
  | _ => none

omit [DecidableEq Agent] in
/-- A state comes later than another: tokens and messages stay. -/
structure State.Later (s s' : State Agent) : Prop where
  satRegistry : s.satRegistry ⊆ s'.satRegistry
  messages : s.messages ⊆ s'.messages

/-- The state with the gateway's two entries for an agent set. -/
def State.setEntries (s : State Agent) (a : Agent) (g : GatewayState) (n : ℤ) : State Agent :=
  { s with
    gatewayState := Function.update s.gatewayState a g
    highestNonce := Function.update s.highestNonce a n }

/-- Where only the gateway state is set the counter is set to itself. -/
theorem setEntries_self (a : Agent) (g : GatewayState) :
    s.setEntries a g (s.highestNonce a) =
      { s with gatewayState := Function.update s.gatewayState a g } := by
  rw [State.setEntries, Function.update_eq_self]

/-- **What a step does**: it sets the entries of the agent it moves, or
only adds to tokens and messages. -/
theorem next_cases (h : Next c i s s') :
    (∃ a g n, i.moves = some a ∧ s' = s.setEntries a g n) ∨
      (s.Later s' ∧ s'.gatewayState = s.gatewayState ∧ s'.highestNonce = s.highestNonce) := by
  cases i with
  | agentRequestIntent a exp intent =>
    obtain ⟨-, rfl⟩ := h
    exact Or.inr ⟨⟨Set.subset_union_left, Set.Subset.rfl⟩, rfl, rfl⟩
  | agentSendHandshake a nonce intent =>
    obtain ⟨-, -, rfl⟩ := h
    exact Or.inr ⟨⟨Set.Subset.rfl, Set.subset_union_left⟩, rfl, rfl⟩
  | gatewayReceiveKnk m =>
    obtain ⟨-, -, -, rfl⟩ := h
    exact Or.inl ⟨m.agent, .parseSig, s.highestNonce m.agent, rfl, (setEntries_self ..).symm⟩
  | gatewayParseSig a m =>
    obtain ⟨-, -, rfl⟩ := h
    split
    · exact Or.inl ⟨a, .verifySat, m.nonce, rfl, rfl⟩
    · exact Or.inl ⟨a, .listen, s.highestNonce a, rfl, (setEntries_self ..).symm⟩
  | gatewayVerifySat a m sat =>
    obtain ⟨-, -, -, rfl⟩ := h
    split
    · exact Or.inl ⟨a, .evaluateMama, s.highestNonce a, rfl, (setEntries_self ..).symm⟩
    · exact Or.inl ⟨a, .listen, s.highestNonce a, rfl, (setEntries_self ..).symm⟩
  | gatewayEvaluateMama a =>
    obtain ⟨-, rfl⟩ := h
    split
    · exact Or.inl ⟨a, .established, s.highestNonce a, rfl, (setEntries_self ..).symm⟩
    · exact Or.inl ⟨a, .listen, s.highestNonce a, rfl, (setEntries_self ..).symm⟩
  | tickClock =>
    obtain ⟨-, rfl⟩ := h
    exact Or.inr ⟨⟨Set.Subset.rfl, Set.Subset.rfl⟩, rfl, rfl⟩

theorem Next.later (h : Next c i s s') : s.Later s' := by
  rcases next_cases h with ⟨a, g, n, -, rfl⟩ | ⟨hlater, -, -⟩
  · exact ⟨Set.Subset.rfl, Set.Subset.rfl⟩
  · exact hlater

/-- A step leaves every agent alone but the one it moves. -/
theorem Next.frame (h : Next c i s s') {a : Agent} (hother : i.moves ≠ some a) :
    s'.gatewayState a = s.gatewayState a ∧ s'.highestNonce a = s.highestNonce a := by
  rcases next_cases h with ⟨b, g, n, hmoves, rfl⟩ | ⟨-, hstate, hnonce⟩
  · have hne : a ≠ b := fun hab => hother (hab ▸ hmoves)
    exact ⟨Function.update_of_ne hne .., Function.update_of_ne hne ..⟩
  · exact ⟨congrFun hstate a, congrFun hnonce a⟩

/-- **How an agent comes to be verified**: by `GatewayVerifySAT`, or it was
before. Its counter stands still either way. -/
theorem next_verified (h : Next c i s s') {a : Agent} (ha : Verified (s'.gatewayState a)) :
    ((∃ m sat, i = .gatewayVerifySat a m sat) ∨ Verified (s.gatewayState a)) ∧
      s'.highestNonce a = s.highestNonce a := by
  -- an agent that the action does not move is as verified as before
  by_cases hmoves : i.moves = some a
  · cases i with
    | gatewayReceiveKnk m =>
      obtain rfl := Option.some.inj hmoves
      obtain ⟨-, -, -, rfl⟩ := h
      simp [Verified] at ha
    | gatewayParseSig b m =>
      obtain rfl := Option.some.inj hmoves
      obtain ⟨-, -, rfl⟩ := h
      split at ha
      · simp [Verified] at ha
      · simp [Verified] at ha
    | gatewayVerifySat b m sat =>
      obtain rfl := Option.some.inj hmoves
      obtain ⟨-, -, -, rfl⟩ := h
      exact ⟨Or.inl ⟨m, sat, rfl⟩, by split <;> rfl⟩
    | gatewayEvaluateMama b =>
      obtain rfl := Option.some.inj hmoves
      obtain ⟨hbefore, rfl⟩ := h
      exact ⟨Or.inr (Or.inl hbefore), by split <;> rfl⟩
    | agentRequestIntent _ _ _ | agentSendHandshake _ _ _ | tickClock => cases hmoves
  · obtain ⟨hsame, hnonce⟩ := h.frame hmoves
    exact ⟨Or.inr (hsame ▸ ha), hnonce⟩

/-! ## Binding -/

/-- A message of an agent whose nonce was accepted has an intent for which
the agent has a token. -/
def IntentBound (a : Agent) (s : State Agent) : Prop :=
  ∃ m ∈ s.messages, m.agent = a ∧ m.nonce = s.highestNonce a ∧
    ∃ sat ∈ s.satRegistry, sat.agent = a ∧ sat.intent = m.intent

/-- A `GatewayVerifySAT` picks a message with the intent of one whose nonce
was accepted. -/
def VerifiesAccepted (s : State Agent) : Action Agent → Prop
  | .gatewayVerifySat a m _ =>
    ∃ accepted ∈ s.messages, accepted.agent = a ∧ accepted.nonce = s.highestNonce a ∧
      accepted.intent = m.intent
  | _ => True

omit [DecidableEq Agent] in
theorem IntentBound.later {a : Agent} (h : IntentBound a s) (hlater : s.Later s')
    (hsame : s'.highestNonce a = s.highestNonce a) : IntentBound a s' := by
  obtain ⟨m, hm, hagent, hnonce, sat, hsat, hsatAgent, hintent⟩ := h
  exact ⟨m, hlater.messages hm, hagent, hnonce.trans hsame.symm, sat, hlater.satRegistry hsat,
    hsatAgent, hintent⟩

/-- A step that verifies what was accepted leaves every verified agent
bound. -/
theorem intentBound_step (hs : ∀ a, Verified (s.gatewayState a) → IntentBound a s)
    (hi : VerifiesAccepted s i) (h : Next c i s s') (a : Agent)
    (ha : Verified (s'.gatewayState a)) : IntentBound a s' := by
  obtain ⟨hbefore, hsame⟩ := next_verified h ha
  refine IntentBound.later ?_ h.later hsame
  rcases hbefore with ⟨m, sat, rfl⟩ | hbefore
  · -- the token is for the intent of the message picked, so of the accepted one
    obtain ⟨accepted, hm, hagent, hnonce, hintent⟩ := hi
    obtain ⟨-, -, ⟨hsat, hsatAgent, hsatIntent⟩, -⟩ := h
    exact ⟨accepted, hm, hagent, hnonce, sat, hsat, hsatAgent, hsatIntent.trans hintent.symm⟩
  · exact hs a hbefore

/-- **Intents are bound on every run that verifies what was accepted.** In
every state of a run each of whose `GatewayVerifySAT` steps picks a message
with the intent of one whose nonce was accepted, an agent that is
ESTABLISHED has a token for the intent of a message whose nonce was
accepted. -/
theorem intentBound_of_run (c : Constants) {ts : List (State Agent × Action Agent × State Agent)}
    (h : (spec c).Run ts s) (hts : System.AllSteps VerifiesAccepted ts) {a : Agent}
    (ha : s.gatewayState a = .established) : IntentBound a s := by
  refine h.invariant (I := fun s => ∀ a, Verified (s.gatewayState a) → IntentBound a s) ?_ ?_ hts a
    (Or.inr ha)
  · rintro s ⟨mamaScores, -, rfl⟩ a ha
    simp [init, Verified] at ha
  · intro i s s' hs hi hnext
    exact intentBound_step hs hi hnext

/-! ## A run of one agent -/

/-- The agent's token, for monitoring. -/
def token : Sat Unit where
  agent := ()
  exp := 1
  intent := .monitor
  active := true

/-- A handshake of the agent's. -/
def handshake (nonce : ℤ) (intent : Intent) : Message Unit where
  type := .knk
  agent := ()
  nonce := nonce
  intent := intent

/-- The agent sends two handshakes, the second for monitoring; the gateway
accepts the nonce of the first and then checks the second. -/
theorem exists_run (intent : Intent) : ∃ ts s,
    (spec checkedBounds).Run ts s ∧ s.gatewayState () = .established ∧
      s.messages = ∅ ∪ {handshake 1 intent} ∪ {handshake 2 .monitor} ∧
      s.satRegistry = ∅ ∪ {token} ∧ s.highestNonce () = 1 ∧
      (intent = .monitor → System.AllSteps VerifiesAccepted ts) := by
  have hscore : (0 : ℤ) ≤ 90 ∧ (90 : ℤ) ≤ 100 := by decide
  have hsafe : checkedBounds.minSafetyScore ≤ 90 := by decide
  have hinit : (spec checkedBounds).Run [] (init fun _ : Unit => 90) :=
    .init ⟨fun _ => 90, fun _ => hscore, rfl⟩
  have hrequest := hinit.step (.agentRequestIntent () 1 .monitor) ⟨by decide, rfl⟩
  have hfirst := hrequest.step (.agentSendHandshake () 1 intent) ⟨by decide, by decide, rfl⟩
  have hsecond := hfirst.step (.agentSendHandshake () 2 .monitor) ⟨by decide, by decide, rfl⟩
  have hreceive := hsecond.step (.gatewayReceiveKnk (handshake 1 intent))
    ⟨Or.inl (Or.inr rfl), rfl, rfl, rfl⟩
  have hparse := hreceive.step (.gatewayParseSig () (handshake 1 intent))
    ⟨rfl, ⟨Or.inl (Or.inr rfl), rfl, rfl⟩, (if_pos Int.zero_lt_one).symm⟩
  -- here the gateway picks the other handshake
  have hverify := hparse.step (.gatewayVerifySat () (handshake 2 .monitor) token)
    ⟨rfl, ⟨Or.inr rfl, rfl, rfl⟩, ⟨Or.inr rfl, rfl, rfl⟩, (if_pos Int.zero_lt_one).symm⟩
  have hevaluate := hverify.step (.gatewayEvaluateMama ()) ⟨rfl, (if_pos hsafe).symm⟩
  refine ⟨_, _, hevaluate, rfl, rfl, rfl, rfl, fun hmonitor => ?_⟩
  simp only [System.allSteps_concat]
  refine ⟨⟨⟨⟨⟨⟨⟨by simp [System.AllSteps], trivial⟩, trivial⟩, trivial⟩, trivial⟩, trivial⟩, ?_⟩,
    trivial⟩
  exact ⟨handshake 1 intent, Or.inl (Or.inr rfl), rfl, rfl, hmonitor⟩

/-- Where both handshakes are for monitoring the run binds the intent. -/
theorem intentBound_of_run_monitor : ∃ s : State Unit,
    (spec checkedBounds).Reachable s ∧ s.gatewayState () = .established ∧ IntentBound () s := by
  obtain ⟨ts, s, hrun, hestablished, -, -, -, hts⟩ := exists_run .monitor
  exact ⟨s, ⟨ts, hrun⟩, hestablished, intentBound_of_run checkedBounds hrun (hts rfl) hestablished⟩

/-- **Where the first is for beamforming it does not**: the session is
established on the nonce of the one and the token of the other. -/
theorem intent_unbound : ¬ ∀ s : State Unit, (spec checkedBounds).Reachable s →
    ∀ a, s.gatewayState a = .established → IntentBound a s := by
  intro hevery
  obtain ⟨ts, s, hrun, hestablished, hmessages, hregistry, hcounter, -⟩ := exists_run .beamform
  obtain ⟨m, hm, -, hnonce, sat, hsat, -, hintent⟩ := hevery s ⟨ts, hrun⟩ () hestablished
  rw [hregistry] at hsat
  rw [hmessages] at hm
  obtain rfl : sat = token := hsat.resolve_left (Set.notMem_empty sat)
  rcases hm with (hm | rfl) | rfl
  · exact Set.notMem_empty m hm
  · -- the accepted handshake has no token
    exact absurd hintent (by decide)
  · -- the one with a token was not accepted
    rw [hcounter] at hnonce
    exact absurd hnonce (by decide)

end Formal

end ThreatModel

end NhpSba
