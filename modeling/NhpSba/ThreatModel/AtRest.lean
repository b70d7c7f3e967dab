import NhpSba.ThreatModel.MacroStep
import NhpSba.ThreatModel.SnapshotStates
import NhpSba.ThreatModel.TrueFormalStates
/-!
# Threat model — the macro-step model at rest

Where no agent is under way, the Deterministic model and the True model
reach the same states (`atRest_iff`), although not by the same steps: at a
token's `exp` the micro-steps cannot follow the macro-step, but they could
have taken the agent in before. Both directions go through the legal states
of the two models: a session of the one has the message, the token and the
score that a session of the other needs, and its snapshot may as well be
the first reading of the clock.
-/

namespace NhpSba

namespace ThreatModel

variable {Agent : Type*} {c : Constants}

namespace TrueFormal

/-- No agent is under way, nor was refused after its handshake counted. -/
def AtRest (s : State Agent) : Prop :=
  ∀ a, s.state a = .established ∨ s.state a = .listen ∧ s.highestNonce a = 0

end TrueFormal

namespace MacroStep

open TrueFormal (AtRest)

variable {s : Snapshot.State Agent} {t : TrueFormal.State Agent}

/-- A legal state of the Snapshot model is at rest in the True model, -/
theorem atRest_of_legal (hs : Snapshot.Legal c s) : AtRest (corresponding s.toVars) :=
  hs.settled

/-- and legal there. -/
theorem corresponding_legal (hs : Snapshot.Legal c s) (hbounds : s.toVars.InBounds c) :
    TrueFormal.Legal c (corresponding s.toVars) := by
  refine ⟨⟨hbounds.clock, hbounds.ticked, hbounds.nonces⟩, hs.network, hs.satRegistry.image _,
    ?_, hs.established.subset fun a ha => ?_, fun a => ?_⟩
  · rintro _ ⟨sat, hsat, rfl⟩
    have hissued := hs.tokens sat hsat
    have hiat := hissued.iat
    have hexp := hissued.exp
    exact ⟨hissued.active, show 1 ≤ sat.exp by omega, hexp.2⟩
  · -- who is busy is no longer as it was at the start
    rcases hs.agents a with hout | hin
    · exact ha.elim (fun h => absurd hout.state h) fun h => absurd hout.highestNonce h
    · exact hin.state
  · rcases hs.agents a with hout | hin
    · exact .fresh (Or.inl hout.state) hout.highestNonce
    · obtain ⟨sat, hsat, hagent, -⟩ := hin.token
      exact .letIn hin.state hin.heard ⟨withoutIat sat, ⟨sat, hsat, rfl⟩, hagent⟩ hin.score

/-- A token asked for at the start. -/
def withIat (sat : TrueFormal.Sat Agent) : Deterministic.Sat Agent where
  agent := sat.agent
  iat := 0
  exp := sat.exp
  active := sat.active

/-- The state of the Snapshot model with the same values, everyone let in
at the start. -/
def letInAtOnce (t : TrueFormal.State Agent) : Snapshot.State Agent where
  state := t.state
  highestNonce := t.highestNonce
  satRegistry := withIat '' t.satRegistry
  network := t.network
  clock := t.clock
  byzantineServer := t.byzantineServer
  byzantineAc := t.byzantineAc
  networkPartition := t.networkPartition
  sessionSnapshot := fun _ => 0

theorem corresponding_letInAtOnce (t : TrueFormal.State Agent) :
    corresponding (letInAtOnce t).toVars = t := by
  have hregistry : withoutIat '' (withIat '' t.satRegistry) = t.satRegistry := by
    rw [Set.image_image]
    exact Set.image_id t.satRegistry
  simp only [corresponding, letInAtOnce, hregistry]

/-- **Who is in at rest could have been let in at the start.** -/
theorem letInAtOnce_legal (ht : TrueFormal.Legal c t) (hrest : AtRest t) :
    Snapshot.Legal c (letInAtOnce t) := by
  have htokens : ∀ sat ∈ t.satRegistry, Deterministic.Issued c t.clock (withIat sat) := by
    intro sat hsat
    obtain ⟨hactive, hexp⟩ := ht.tokens sat hsat
    exact ⟨hactive, ⟨le_rfl, ht.bounds.clock⟩, show (0 : ℤ) < sat.exp by omega, hexp.2⟩
  refine ⟨⟨ht.bounds.clock, ht.bounds.ticked⟩, ht.network, ht.bounds.nonces,
    ht.satRegistry.image _, ?_, ht.busy.subset fun a ha => ?_, fun a => ?_⟩
  · rintro _ ⟨sat, hsat, rfl⟩
    exact htokens sat hsat
  · have hin : t.state a = .established := ha
    left
    rw [hin]
    decide
  · rcases hrest a with hin | ⟨hlisten, hzero⟩
    · have hverified : Verified (t.state a) := Or.inr hin
      have hplaced := ht.agents a
      obtain ⟨sat, hsat, hagent⟩ := hplaced.token hverified
      have hexp := (htokens sat hsat).exp
      exact Or.inr ⟨hin, hplaced.heard (Or.inr hverified),
        ⟨withIat sat, ⟨sat, hsat, rfl⟩, hagent, le_rfl, Or.inl (le_of_lt hexp.1)⟩,
        ht.bounds.clock, hplaced.passable hin⟩
    · exact Or.inl ⟨hlisten, hzero, rfl⟩

variable [DecidableEq Agent]

variable (c t) in
/-- **The two models at rest.** But for the `iat` of its tokens, the states
that the Deterministic model reaches are the states in which the True model
comes to rest. -/
theorem atRest_iff : (∃ v, (Deterministic.spec c).Reachable v ∧ corresponding v = t) ↔
    (TrueFormal.spec c).Reachable t ∧ AtRest t := by
  constructor
  · rintro ⟨v, hv, rfl⟩
    obtain ⟨s, hs, rfl⟩ := Snapshot.exists_reachable hv
    have hlegal := Snapshot.legal_of_reachable hs
    have hbounds := (Deterministic.grounded_of_reachable hv).bounds
    exact ⟨(corresponding_legal hlegal hbounds).reachable, atRest_of_legal hlegal⟩
  · rintro ⟨hreach, hrest⟩
    have hlegal := letInAtOnce_legal (TrueFormal.legal_of_reachable hreach) hrest
    exact ⟨_, Snapshot.reachable_toVars hlegal.reachable, corresponding_letInAtOnce t⟩

end MacroStep

end ThreatModel

end NhpSba
