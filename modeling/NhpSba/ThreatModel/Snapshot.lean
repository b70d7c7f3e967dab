import NhpSba.ThreatModel.Model.Snapshot
import NhpSba.ThreatModel.Deterministic
/-!
# Threat model — the Snapshot model is safe, without bounds

Without its snapshots the Snapshot model steps as the Deterministic one
does (`next_toVars`), so what holds of that one's runs holds here. What the
snapshot adds is an invariant of its own (`Covered`): while the server is
honest an agent that is let in has a token whose time the snapshot fell in.
It is kept because the registry and the clock only grow, and because a
server once compromised stays so.
-/

namespace NhpSba

namespace ThreatModel

namespace Snapshot

open Deterministic (Sat Action Entry EntryGuard LetsIn Heard)

variable {Agent : Type*} [DecidableEq Agent] {c : Constants} {i : Action Agent}
  {s s' : State Agent}

/-! ## The Deterministic model underneath -/

/-- **Without the snapshots a step is one of the Deterministic model.** -/
theorem next_toVars (h : Next c i s s') : Deterministic.Next c i s.toVars s'.toVars := by
  cases i with
  | requestSat a iat exp => exact ⟨h.1, h.2.1, h.2.2.1⟩
  | common action => exact h.1
  | atomicVerifyAndEvaluate a m sat score =>
    obtain ⟨hentry, rfl⟩ := h
    refine ⟨hentry, ?_⟩
    by_cases hguard : EntryGuard c a m sat score s.toVars
    · rw [if_pos hguard, if_pos hguard]
    · rw [if_neg hguard, if_neg hguard]

theorem reachable_toVars (h : (spec c).Reachable s) :
    (Deterministic.spec c).Reachable s.toVars := by
  obtain ⟨v, hv, rfl⟩ := h.simulate (U := Deterministic.spec c) (R := fun s v => s.toVars = v)
    (fun s hs => ⟨Vars.init, rfl, by rw [hs]; rfl⟩) fun i s s' v hR hnext =>
      ⟨i, s'.toVars, hR ▸ next_toVars hnext, rfl⟩
  exact hv

/-- **And every step of the Deterministic model can take its snapshot**:
the variable restricts nothing. -/
theorem exists_next {v' : Deterministic.State Agent}
    (h : Deterministic.Next c i s.toVars v') : ∃ s', Next c i s s' ∧ s'.toVars = v' := by
  cases i with
  | requestSat a iat exp =>
    exact ⟨{ s with toVars := v' }, ⟨h.1, h.2.1, h.2.2, rfl⟩, rfl⟩
  | common action => exact ⟨{ s with toVars := v' }, ⟨h, rfl⟩, rfl⟩
  | atomicVerifyAndEvaluate a m sat score =>
    obtain ⟨hentry, rfl⟩ := h
    refine ⟨_, ⟨hentry, rfl⟩, ?_⟩
    by_cases hguard : EntryGuard c a m sat score s.toVars
    · rw [if_pos hguard, if_pos hguard]
    · rw [if_neg hguard, if_neg hguard]

theorem exists_reachable {v : Deterministic.State Agent} (h : (Deterministic.spec c).Reachable v) :
    ∃ s, (spec c).Reachable s ∧ s.toVars = v := by
  refine h.simulate (U := spec c) (R := fun v s => s.toVars = v) ?_ ?_
  · rintro v rfl
    exact ⟨init, rfl, rfl⟩
  · rintro i v v' s rfl hnext
    obtain ⟨s', hs', hv'⟩ := exists_next hnext
    exact ⟨i, s', hs', hv'⟩

/-- Only letting in takes a snapshot, and of the clock. -/
theorem sessionSnapshot_cases (h : Next c i s s') (a : Agent) :
    ((∃ m sat score, LetsIn c a m sat score i s.toVars) ∧ s'.sessionSnapshot a = s.clock) ∨
      s'.sessionSnapshot a = s.sessionSnapshot a := by
  cases i with
  | requestSat b iat exp => exact Or.inr (congrFun h.2.2.2 a)
  | common action => exact Or.inr (congrFun h.2 a)
  | atomicVerifyAndEvaluate b m sat score =>
    obtain ⟨hentry, rfl⟩ := h
    by_cases hguard : EntryGuard c b m sat score s.toVars
    · rw [if_pos hguard]
      by_cases hab : a = b
      · subst hab
        exact Or.inl ⟨⟨m, sat, score, rfl, hentry, hguard⟩, Function.update_self ..⟩
      · exact Or.inr (Function.update_of_ne hab ..)
    · rw [if_neg hguard]
      exact Or.inr rfl

/-! ## The invariant -/

/-- A token of an agent covers the agent's snapshot, which is not ahead of
the clock. -/
def Covered (a : Agent) (s : State Agent) : Prop :=
  (∃ sat ∈ s.satRegistry, sat.agent = a ∧
    sat.iat ≤ s.sessionSnapshot a ∧ s.sessionSnapshot a ≤ sat.exp) ∧
  s.sessionSnapshot a ≤ s.clock

omit [DecidableEq Agent] in
/-- A snapshot that stays is covered by what covered it. -/
theorem Covered.later {a : Agent} (h : Covered a s) (hlater : s.toVars.Later s'.toVars)
    (hsame : s'.sessionSnapshot a = s.sessionSnapshot a) : Covered a s' := by
  obtain ⟨⟨sat, hsat, hagent, hiat, hexp⟩, hclock⟩ := h
  rw [← hsame] at hiat hexp hclock
  exact ⟨⟨sat, hlater.satRegistry hsat, hagent, hiat, hexp⟩, le_trans hclock hlater.clock⟩

/-- Letting in by an honest server takes a snapshot that is covered. -/
theorem covered_of_letsIn {a : Agent} {m : Message Agent} {sat : Sat Agent} {score : ℤ}
    (h : Next c i s s') (hhonest : s.byzantineServer = false)
    (hin : LetsIn c a m sat score i s.toVars) : Covered a s' := by
  have hlater := (next_toVars h).later
  obtain ⟨rfl, hentry, hguard⟩ := hin
  obtain ⟨-, -, -, ⟨hsat, hagent⟩, -⟩ := id hentry
  have hwindow : sat.iat ≤ s.clock ∧ s.clock ≤ sat.exp := by
    have hsome := hguard.2.1
    rw [hhonest] at hsome
    simpa using hsome
  have hsnapshot : s'.sessionSnapshot a = s.clock := by
    obtain ⟨-, rfl⟩ := h
    rw [if_pos hguard]
    exact Function.update_self ..
  rw [← hsnapshot] at hwindow
  exact ⟨⟨sat, hlater.satRegistry hsat, hagent, hwindow.1, hwindow.2⟩,
    hsnapshot ▸ hlater.clock⟩

/-- While the server is honest every agent that is let in is covered. -/
def HonestCovered (s : State Agent) : Prop :=
  s.byzantineServer = false → ∀ a, s.state a = .established → Covered a s

/-- **Every step keeps it.** A server that is honest after the step was
honest before it. -/
theorem HonestCovered.step (hs : HonestCovered s) (h : Next c i s s') : HonestCovered s' := by
  intro hhonest' a ha
  have hlater := (next_toVars h).later
  have hhonest : s.byzantineServer = false := hlater.byzantineServer hhonest'
  rcases Deterministic.next_cases (next_toVars h) a with ⟨m, sat, score, hin⟩ | ⟨hstate, -⟩
  · exact covered_of_letsIn h hhonest hin
  · have hbefore : s.state a = .established := by
      rcases hstate with hkept | hlisten
      · exact hkept ▸ ha
      · rw [hlisten] at ha
        cases ha
    rcases sessionSnapshot_cases h a with ⟨⟨m, sat, score, hin⟩, -⟩ | hsame
    · exact covered_of_letsIn h hhonest hin
    · exact (hs hhonest a hbefore).later hlater hsame

/-! ## Safety -/

/-- **The Snapshot model is safe**, for any agents and any bounds. In every
reachable state, while the server is honest, an agent that is ESTABLISHED
has a token in the registry whose time its snapshot fell in, its snapshot
is not ahead of the clock, and its counter is the nonce of a message of its
in the network; and no step while the server is honest lowers a counter. -/
theorem snapshot_safe (c : Constants) {s : State Agent} (h : (spec c).Reachable s) :
    (s.byzantineServer = false → ∀ a, s.state a = .established →
      (∃ sat ∈ s.satRegistry, sat.agent = a ∧
        sat.iat ≤ s.sessionSnapshot a ∧ s.sessionSnapshot a ≤ sat.exp) ∧
      s.sessionSnapshot a ≤ s.clock ∧
      ∃ m ∈ s.network, m.agent = a ∧ m.nonce = s.highestNonce a) ∧
    ∀ i s', Next c i s s' → s.byzantineServer = false →
      ∀ a, s.highestNonce a ≤ s'.highestNonce a := by
  refine ⟨fun hhonest a ha => ?_, fun i s' hnext hhonest a => ?_⟩
  · have hcovered : HonestCovered s :=
      h.invariant (fun s hs _ a ha => by subst hs; cases ha) fun i s s' hs hnext => hs.step hnext
    obtain ⟨hsat, hclock⟩ := hcovered hhonest a ha
    exact ⟨hsat, hclock, Deterministic.heard_of_established (reachable_toVars h) ha⟩
  · exact Deterministic.highestNonce_le (next_toVars hnext) hhonest a

/-- An agent that is let in is covered by its token, and was heard. -/
theorem snapshot_safe_entered : ∃ s : State Unit, s.toVars = Deterministic.entered 0 ∧
    (∃ sat ∈ s.satRegistry, sat.iat ≤ s.sessionSnapshot () ∧ s.sessionSnapshot () ≤ sat.exp) ∧
    ∃ m ∈ s.network, m.nonce = s.highestNonce () := by
  obtain ⟨s, hs, hv⟩ := exists_reachable Deterministic.entered_reachable
  have hhonest : s.byzantineServer = false := by rw [hv]; rfl
  have hestablished : s.state () = .established := by rw [hv]; rfl
  obtain ⟨⟨sat, hsat, -, hwindow⟩, -, m, hm, -, hnonce⟩ :=
    (snapshot_safe checkedBounds hs).1 hhonest () hestablished
  exact ⟨s, hv, ⟨sat, hsat, hwindow⟩, m, hm, hnonce⟩

end Snapshot

end ThreatModel

end NhpSba
