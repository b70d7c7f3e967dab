import NhpSba.ThreatModel.Deterministic
import NhpSba.ThreatModel.Model.TrueFormal
/-!
# Threat model — the macro-step and the micro-steps it merges

The Deterministic model lets an agent in by one step, the True model by
four. The two look at the window of a token differently: the macro-step
takes a token at its `exp`, `VerifySAT` only before it. So the four steps
can follow the macro-step exactly when the agent has a token that has not
come to its `exp` yet (`microSteps_iff`).
-/

namespace NhpSba

namespace ThreatModel

namespace MacroStep

open Deterministic (AtomicVerifyAndEvaluate EntryGuard token handshake ready entered)
open TrueFormal (ReceiveKNK ParseSig VerifySAT EvaluateMAMA)

variable {Agent : Type*} {c : Constants} {a : Agent}

/-- A token without its `iat`. -/
def withoutIat (sat : Deterministic.Sat Agent) : TrueFormal.Sat Agent where
  agent := sat.agent
  exp := sat.exp
  active := sat.active

/-- The state of the True model with the same values. -/
def corresponding (s : Deterministic.State Agent) : TrueFormal.State Agent where
  state := s.state
  highestNonce := s.highestNonce
  satRegistry := withoutIat '' s.satRegistry
  network := s.network
  clock := s.clock
  byzantineServer := s.byzantineServer
  byzantineAc := s.byzantineAc
  networkPartition := s.networkPartition

/-- An agent has a token that has not come to its `exp`. -/
def Fresh (a : Agent) (s : Deterministic.State Agent) : Prop :=
  ∃ sat ∈ s.satRegistry, sat.agent = a ∧ s.clock < sat.exp

variable [DecidableEq Agent]

/-- The four micro-steps for an agent, in a row. -/
def MicroSteps (c : Constants) (a : Agent) (t t' : TrueFormal.State Agent) : Prop :=
  ∃ m m' m'' sat score t₁ t₂ t₃,
    TrueFormal.Next c (.receiveKnk m) t t₁ ∧ TrueFormal.Next c (.parseSig a m') t₁ t₂ ∧
      TrueFormal.Next c (.verifySat a m'' sat) t₂ t₃ ∧
        TrueFormal.Next c (.evaluateMama a score) t₃ t'

variable {m : Message Agent} {sat : Deterministic.Sat Agent} {score : ℤ}
  {s s' : Deterministic.State Agent} {t t' : TrueFormal.State Agent}

/-! ## What the micro-steps need -/

/-- `VerifySAT` by an honest server takes an agent on only before the
token's `exp`. -/
theorem lt_exp_of_verified {sat : TrueFormal.Sat Agent} (h : VerifySAT a m sat t t')
    (hhonest : t.byzantineServer = false) (hverified : t'.state a = .evaluateMama) :
    t.clock < sat.exp := by
  obtain ⟨-, -, -, -, rfl⟩ := h
  by_contra hlate
  rw [if_neg (by simp [hlate, hhonest])] at hverified
  simp at hverified

/-- `ParseSig` looks at no token and no clock. -/
theorem parseSig_frame (h : ParseSig a m t t') :
    t'.satRegistry = t.satRegistry ∧ t'.clock = t.clock ∧
      t'.byzantineServer = t.byzantineServer := by
  obtain ⟨-, -, -, rfl⟩ := h
  split
  · exact ⟨rfl, rfl, rfl⟩
  · exact ⟨rfl, rfl, rfl⟩

/-- **The micro-steps need a fresh token.** -/
theorem fresh_of_microSteps (hhonest : s.byzantineServer = false)
    (h : MicroSteps c a (corresponding s) t') : Fresh a s := by
  obtain ⟨m, m', m'', sat, score, t₁, t₂, t₃, hreceive, hparse, hverify, hevaluate⟩ := h
  obtain ⟨-, -, -, rfl⟩ := hreceive
  obtain ⟨hregistry, hclock, hserver⟩ := parseSig_frame hparse
  have hexp : t₂.clock < sat.exp :=
    lt_exp_of_verified hverify (hserver.trans hhonest) hevaluate.2.1
  obtain ⟨-, -, -, ⟨hsat, hagent⟩, -⟩ := hverify
  rw [hregistry] at hsat
  rw [hclock] at hexp
  -- the token is one of the other model's, without its `iat`
  obtain ⟨sat, hsat, rfl⟩ := hsat
  exact ⟨sat, hsat, hagent, hexp⟩

/-! ## What the macro-step gives -/

/-- A macro-step that ends in ESTABLISHED has passed the entry guard. -/
theorem guard_of_established (h : AtomicVerifyAndEvaluate c a m sat score s s')
    (hestablished : s'.state a = .established) : EntryGuard c a m sat score s := by
  obtain ⟨-, rfl⟩ := h
  by_contra hguard
  rw [if_neg hguard] at hestablished
  simp at hestablished

/-- **With a fresh token the micro-steps follow the macro-step.** The
handshake is the macro-step's own all the way; only the token may be
another. -/
theorem microSteps_of_fresh (h : AtomicVerifyAndEvaluate c a m sat score s s')
    (hestablished : s'.state a = .established) (hfresh : Fresh a s) :
    MicroSteps c a (corresponding s) (corresponding s') := by
  have hguard := guard_of_established h hestablished
  obtain ⟨⟨hpartition, hstate, ⟨hm, rfl, -⟩, -, hscore⟩, rfl⟩ := h
  obtain ⟨fresh, hsat, hagent, hexp⟩ := hfresh
  obtain ⟨hnonce, -, hsafe⟩ := id hguard
  rw [if_pos hguard]
  -- the states that the micro-steps pass through
  let t₁ : TrueFormal.State Agent := { corresponding s with
    state := Function.update s.state m.agent .parseSig }
  let t₂ : TrueFormal.State Agent := { t₁ with
    highestNonce := Function.update s.highestNonce m.agent m.nonce
    state := Function.update t₁.state m.agent .verifySat }
  let t₃ : TrueFormal.State Agent := { t₂ with
    state := Function.update t₂.state m.agent .evaluateMama }
  refine ⟨m, m, m, withoutIat fresh, score, t₁, t₂, t₃, ?_, ?_, ?_, ?_⟩
  · exact ⟨hpartition, hm, hstate, rfl⟩
  · exact ⟨hpartition, Function.update_self .., ⟨hm, rfl⟩, (if_pos hnonce).symm⟩
  · exact ⟨hpartition, Function.update_self .., ⟨hm, rfl⟩, ⟨⟨fresh, hsat, rfl⟩, hagent⟩,
      (if_pos (Or.inl hexp)).symm⟩
  · refine ⟨hpartition, Function.update_self .., hscore, Eq.trans ?_ (if_pos hsafe).symm⟩
    simp only [corresponding, t₁, t₂, t₃, Function.update_idem]

/-- **When the macro-step is a merge of the micro-steps.** From any state
of an honest server, the four steps of the True model can go where a
macro-step that ends in ESTABLISHED goes exactly when the agent has a token
that has not come to its `exp`. -/
theorem microSteps_iff (hhonest : s.byzantineServer = false)
    (h : AtomicVerifyAndEvaluate c a m sat score s s') (hestablished : s'.state a = .established) :
    MicroSteps c a (corresponding s) (corresponding s') ↔ Fresh a s :=
  ⟨fresh_of_microSteps hhonest, microSteps_of_fresh h hestablished⟩

/-- At a token's first reading of the clock the micro-steps follow. -/
theorem microSteps_iff_ready :
    MicroSteps checkedBounds () (corresponding (ready 0)) (corresponding (entered 0)) :=
  (microSteps_iff rfl (Deterministic.entered_next (by decide)) rfl).2
    ⟨token, Or.inr rfl, rfl, Int.zero_lt_one⟩

/-- **At its last reading they cannot**: a reachable state, with no one
compromised, from which the macro-step lets the agent in and the micro-steps
do not. -/
theorem no_microSteps_at_exp : ∃ s s' : Deterministic.State Unit,
    (Deterministic.spec checkedBounds).Reachable s ∧
      s.byzantineServer = false ∧ s.byzantineAc = false ∧
      AtomicVerifyAndEvaluate checkedBounds () handshake token 85 s s' ∧
      s'.state () = .established ∧
      ¬ MicroSteps checkedBounds () (corresponding s) (corresponding s') := by
  refine ⟨ready 1, entered 1, Deterministic.ready_reachable_last, rfl, rfl,
    Deterministic.entered_next (by decide), rfl, fun hmicro => ?_⟩
  obtain ⟨sat, hsat, -, hexp⟩ := fresh_of_microSteps rfl hmicro
  obtain rfl : sat = token := hsat.resolve_left (Set.notMem_empty sat)
  exact absurd hexp (lt_irrefl 1)

end MacroStep

end ThreatModel

end NhpSba
