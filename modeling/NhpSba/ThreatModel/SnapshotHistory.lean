import NhpSba.Common.History
import NhpSba.ThreatModel.LetIn
import NhpSba.ThreatModel.Snapshot
/-!
# Threat model — what the Snapshot model adds

The snapshots record and restrict nothing (`history`), and NHPAC is
possible and taken in the Snapshot model where it is in the Deterministic
one. So the two specifications have the same behaviours, fairness
included (`fairSpec_iff`).
-/

namespace NhpSba

namespace ThreatModel

namespace Snapshot

open Deterministic (Action EntryGuard Settled)

variable {Agent : Type*} [DecidableEq Agent] {c : Constants} {s s' : State Agent}

theorem history :
    System.History (Deterministic.spec c) (spec c) fun s : State Agent => s.toVars where
  init s hs := by
    obtain rfl : s = init := hs
    rfl
  exists_init s hs := ⟨init, rfl, Eq.symm hs⟩
  step s s' := fun ⟨i, h⟩ => ⟨i, next_toVars h⟩
  exists_step s v' := fun ⟨i, h⟩ => by
    obtain ⟨s', hs', hv'⟩ := exists_next h
    exact ⟨s', ⟨i, hs'⟩, hv'⟩

theorem settled_of_reachable (h : (spec c).Reachable s) : Settled s.toVars :=
  Deterministic.settled_of_reachable (reachable_toVars h)

/-- **NHPAC is taken in both models at once.** -/
theorem changes_iff (hs : Settled s.toVars) (h : (spec c).Step s s') :
    System.Changes (Deterministic.NHPAC c) s.toVars s'.toVars ↔
      System.Changes (NHPAC c) s s' := by
  obtain ⟨i, hnext⟩ := h
  constructor
  · intro hchanges
    refine ⟨?_, fun heq => hchanges.2 (congrArg State.toVars heq)⟩
    obtain ⟨a, _, _, _, hentry, -, hstate⟩ := Deterministic.letsIn_of_changes hs hchanges
    rcases Deterministic.next_settled hs (next_toVars hnext) with
      ⟨b, m, sat, score, rfl, -⟩ | ⟨hsame, -⟩
    · exact ⟨b, m, sat, score, hnext⟩
    · -- an action that moves nobody lets nobody in
      have hin : s'.state a = .established := by
        rw [hstate]
        exact Function.update_self ..
      rw [hsame] at hin
      exact absurd hin hentry.ne_established
  · rintro ⟨⟨a, m, sat, score, hatomic⟩, hne⟩
    have hstep : Next c (.atomicVerifyAndEvaluate a m sat score) s s' := hatomic
    refine ⟨⟨a, m, sat, score, next_toVars hstep⟩, fun heq => hne ?_⟩
    obtain ⟨hentry, rfl⟩ := hatomic
    by_cases hguard : EntryGuard c a m sat score s.toVars
    · rw [if_pos hguard] at heq
      have hin : s.state a = .established := by
        rw [← heq]
        exact Function.update_self ..
      exact absurd hin hentry.ne_established
    · have hlisten := (hs.listen hentry.ne_established).1
      rw [if_neg hguard, ← hlisten, Function.update_eq_self]

/-- And is possible in both at once. -/
theorem enabled_iff (hs : Settled s.toVars) :
    (∃ v', System.Changes (Deterministic.NHPAC c) s.toVars v') ↔
      ∃ s', System.Changes (NHPAC c) s s' := by
  constructor
  · rintro ⟨v', ⟨a, m, sat, score, hatomic⟩, hne⟩
    obtain ⟨s', hs', rfl⟩ := exists_next (s := s)
      (show Deterministic.Next c (.atomicVerifyAndEvaluate a m sat score) s.toVars v' from hatomic)
    exact ⟨s', ⟨a, m, sat, score, hs'⟩, fun heq => hne (congrArg State.toVars heq)⟩
  · rintro ⟨s', hchanges⟩
    obtain ⟨a, m, sat, score, hatomic⟩ := hchanges.1
    have hstep : (spec c).Step s s' := ⟨.atomicVerifyAndEvaluate a m sat score, hatomic⟩
    exact ⟨s'.toVars, (changes_iff hs hstep).2 hchanges⟩

theorem sgc_fair {b : ℕ → State Agent} (hb : (spec c).Behaviour b) :
    System.StronglyFair SGC b :=
  System.stronglyFair_of_disabled (N := 0) fun n _ _ ⟨⟨a, hhandled, _⟩, _⟩ =>
    Deterministic.not_sgc (settled_of_reachable (hb.reachable n)) ⟨a, hhandled⟩

/-- **The Snapshot model is the Deterministic model with a record.** The
behaviours that the one specification has, fairness included, are those of
the other without their snapshots. -/
theorem fairSpec_iff (b : ℕ → Deterministic.State Agent) :
    Deterministic.FairSpec c b ↔
      ∃ b' : ℕ → State Agent, FairSpec c b' ∧ ∀ n, (b' n).toVars = b n := by
  have hfair : ∀ b' : ℕ → State Agent, (spec c).Behaviour b' →
      (System.WeaklyFair (Deterministic.NHPAC c) (fun n => (b' n).toVars) ↔
        System.WeaklyFair (NHPAC c) b') := fun b' hb' =>
    System.History.weaklyFair_iff hb' (fun s hs => enabled_iff (settled_of_reachable hs))
      fun s s' hs hstep => changes_iff (settled_of_reachable hs) hstep
  constructor
  · intro hb
    obtain ⟨b', hb', hsame⟩ := history.lift hb.behaviour
    obtain rfl : (fun n => (b' n).toVars) = b := funext hsame
    exact ⟨b', ⟨hb', (hfair b' hb').1 hb.nhpac, sgc_fair hb'⟩, fun _ => rfl⟩
  · rintro ⟨b', hb', hsame⟩
    obtain rfl : (fun n => (b' n).toVars) = b := funext hsame
    have hbehaviour := history.map hb'.behaviour
    exact ⟨hbehaviour, (hfair b' hb'.behaviour).2 hb'.nhpac, Deterministic.sgc_fair hbehaviour⟩

end Snapshot

end ThreatModel

end NhpSba
