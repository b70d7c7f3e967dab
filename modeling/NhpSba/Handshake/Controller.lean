import NhpSba.Common.Machine
import NhpSba.Handshake.Lifecycle
import NhpSba.Handshake.Model.Controller
import Mathlib.Data.List.Induction
/-!
# Handshake — the access controller's machine is consistent

Each method is summed up in one equation (`step_processKnk` and the rest).
A method that fails has written nothing (`step_failed`), and one that
succeeds keeps the fields in step with the state (`Consistent.step`): so
they are after every run, and the counter is bounded by the state and not
by the length of the run (`consistent_of_run`).
-/

namespace NhpSba

namespace Handshake

open Fallible Machine

namespace Controller

namespace NhpStateMachine

variable (t : NhpStateMachine)

/-! ## The methods -/

theorem call_ensureNotTerminated :
    call ensureNotTerminated t =
      if t.state = .sessionTerminated then (.error (.terminalState "terminated"), t)
      else (.ok (), t) := by
  unfold ensureNotTerminated
  rw [call_read_bind]
  split <;> rfl

theorem call_ensureState (expected : NhpState) (targetName : String) :
    call (ensureState expected targetName) t =
      if t.state = expected then (.ok (), t)
      else (.error (.invalidTransition (debug t.state) targetName), t) := by
  unfold ensureState
  rw [call_read_bind]
  by_cases h : t.state = expected
  · rw [if_neg (not_not.2 h), if_pos h, call_pure]
  · rw [if_pos h, if_neg h, call_raise]

theorem step_processKnk (nodeId : String) :
    step t (.processKnk nodeId) =
      if t.state = .idle then
        (true, { t with
          nodeId := some nodeId, state := .knockSent, transitionCount := t.transitionCount + 1 })
      else (false, t) := by
  unfold step perform processKnk
  cases h : t.state <;>
    simp [call_bind, call_ensureNotTerminated, call_ensureState, transition, h]

theorem step_evaluatePolicy :
    step t .evaluatePolicy =
      if t.state = .knockSent then
        (true, { t with state := .policyEval, transitionCount := t.transitionCount + 1 })
      else (false, t) := by
  unfold step perform evaluatePolicy
  cases h : t.state <;>
    simp [call_bind, call_ensureNotTerminated, call_ensureState, transition, h]

theorem step_provisionTunnel :
    step t .provisionTunnel =
      if t.state = .policyEval then
        (true, { t with state := .tunnelProvisioned, transitionCount := t.transitionCount + 1 })
      else (false, t) := by
  unfold step perform provisionTunnel
  cases h : t.state <;>
    simp [call_bind, call_ensureNotTerminated, call_ensureState, transition, h]

theorem step_activateSession (sessionId : String) :
    step t (.activateSession sessionId) =
      if t.state = .tunnelProvisioned then
        (true, { t with
          sessionId := some sessionId, state := .sessionActive
          transitionCount := t.transitionCount + 1 })
      else (false, t) := by
  unfold step perform activateSession
  cases h : t.state <;>
    simp [call_bind, call_ensureNotTerminated, call_ensureState, transition, h]

theorem step_terminate (reason : String) :
    step t (.terminate reason) =
      if t.state ≠ .sessionTerminated then
        (true, { t with
          terminationReason := some reason, state := .sessionTerminated
          transitionCount := t.transitionCount + 1 })
      else (false, t) := by
  unfold step perform terminate
  rw [call_read_bind]
  cases h : t.state <;> simp [transition, h]

theorem step_reset : step t .reset = (true, new) := rfl

/-- **A method that fails has written nothing.** -/
theorem step_failed (op : Operation) (h : (step t op).1 = false) : (step t op).2 = t := by
  cases op with
  | processKnk nodeId => exact unchanged_of_failed (step_processKnk t nodeId) h
  | evaluatePolicy => exact unchanged_of_failed (step_evaluatePolicy t) h
  | provisionTunnel => exact unchanged_of_failed (step_provisionTunnel t) h
  | activateSession sessionId => exact unchanged_of_failed (step_activateSession t sessionId) h
  | terminate reason => exact unchanged_of_failed (step_terminate t reason) h
  | reset => cases h

/-! ## The fields -/

/-- The fields are in step with the state: what is set, and how many
transitions have been counted. -/
structure Consistent (t : NhpStateMachine) : Prop where
  reason : t.terminationReason.isSome ↔ t.state = .sessionTerminated
  sessionOnly : t.sessionId.isSome → t.state = .sessionActive ∨ t.state = .sessionTerminated
  sessionAlways : t.state = .sessionActive → t.sessionId.isSome
  node : t.state ≠ .idle → t.state ≠ .sessionTerminated → t.nodeId.isSome
  count : t.state ≠ .sessionTerminated → t.transitionCount.toNat = stage t.state
  countTerminated : t.state = .sessionTerminated →
    1 ≤ t.transitionCount.toNat ∧ t.transitionCount.toNat ≤ 5

variable {t}

theorem consistent_new : Consistent new where
  reason := by simp [new]
  sessionOnly := by simp [new]
  sessionAlways := by simp [new]
  node := by simp [new]
  count _ := rfl
  countTerminated := by simp [new]

/-- A state that is not the last is at most four transitions from the
first. -/
theorem Consistent.count_le_four (hc : Consistent t) (hs : t.state ≠ .sessionTerminated) :
    t.transitionCount.toNat ≤ 4 := by
  rw [hc.count hs]
  cases h : t.state with
  | sessionTerminated => exact absurd h hs
  | _ => simp [stage]

theorem Consistent.count_le_five (hc : Consistent t) : t.transitionCount.toNat ≤ 5 := by
  by_cases hs : t.state = .sessionTerminated
  · exact (hc.countTerminated hs).2
  · exact Nat.le_succ_of_le (hc.count_le_four hs)

/-- **The counter does not wrap.** -/
theorem Consistent.count_succ (hc : Consistent t) :
    (t.transitionCount + 1).toNat = t.transitionCount.toNat + 1 := by
  have hle := hc.count_le_five
  have hone : (1 : UInt32).toNat = 1 := rfl
  rw [UInt32.toNat_add, hone]
  omega

/-- One transition further on, short of the last state. -/
theorem Consistent.move (hc : Consistent t) {s : NhpState} {nodeId sessionId : Option String}
    (hstage : stage s = stage t.state + 1) (hs : s ≠ .sessionTerminated)
    (hnode : nodeId.isSome) (hsession : sessionId.isSome ↔ s = .sessionActive) :
    Consistent { t with
      state := s, nodeId, sessionId, transitionCount := t.transitionCount + 1 } := by
  have hbefore : t.state ≠ .sessionTerminated := by
    intro h
    rw [h] at hstage
    cases s <;> simp [stage] at hstage
  refine ⟨?_, ?_, ?_, ?_, ?_, ?_⟩
  · exact ⟨fun h => absurd (hc.reason.1 h) hbefore, fun h => absurd h hs⟩
  · exact fun h => Or.inl (hsession.1 h)
  · exact hsession.2
  · exact fun _ _ => hnode
  · intro _
    exact hc.count_succ.trans ((congrArg (· + 1) (hc.count hbefore)).trans hstage.symm)
  · exact fun h => absurd h hs

theorem Consistent.session_iff (hc : Consistent t) (hs : t.state ≠ .sessionTerminated) :
    t.sessionId.isSome ↔ t.state = .sessionActive :=
  ⟨fun h => (hc.sessionOnly h).resolve_right hs, hc.sessionAlways⟩

/-- **Every call keeps the fields in step.** -/
theorem Consistent.step (hc : Consistent t) (op : Operation) : Consistent (step t op).2 := by
  cases op with
  | processKnk nodeId =>
    refine kept_of_guarded (step_processKnk t nodeId) hc fun hs => ?_
    have hsession := hc.session_iff (by simp [hs])
    exact hc.move (by rw [hs]; rfl) (by simp) rfl (by simp [hsession, hs])
  | evaluatePolicy =>
    refine kept_of_guarded (step_evaluatePolicy t) hc fun hs => ?_
    have hsession := hc.session_iff (by simp [hs])
    have hnode := hc.node (by simp [hs]) (by simp [hs])
    exact hc.move (by rw [hs]; rfl) (by simp) hnode (by simp [hsession, hs])
  | provisionTunnel =>
    refine kept_of_guarded (step_provisionTunnel t) hc fun hs => ?_
    have hsession := hc.session_iff (by simp [hs])
    have hnode := hc.node (by simp [hs]) (by simp [hs])
    exact hc.move (by rw [hs]; rfl) (by simp) hnode (by simp [hsession, hs])
  | activateSession sessionId =>
    refine kept_of_guarded (step_activateSession t sessionId) hc fun hs => ?_
    have hnode := hc.node (by simp [hs]) (by simp [hs])
    exact hc.move (by rw [hs]; rfl) (by simp) hnode (by simp)
  | terminate reason =>
    refine kept_of_guarded (step_terminate t reason) hc fun hs => ?_
    -- four transitions at most came before this one
    have hle := hc.count_le_four hs
    refine ⟨by simp, fun _ => Or.inr rfl, by simp, by simp, by simp, fun _ => ?_⟩
    rw [hc.count_succ]
    omega
  | reset => exact consistent_new

theorem consistent_after (ops : List Operation) :
    Consistent (after NhpStateMachine.step new ops) := by
  induction ops using List.reverseRecOn with
  | nil => exact consistent_new
  | append_singleton ops op ih =>
    rw [after_concat]
    exact ih.step op

/-- **Consistent after every run.** Whatever calls a new machine has
answered: one that fails leaves it as it was, its fields are in step with
its state, and its counter can count one more transition. -/
theorem consistent_of_run (ops : List Operation) :
    (∀ op, (step (after step new ops) op).1 = false →
      (step (after step new ops) op).2 = after step new ops) ∧
    Consistent (after step new ops) ∧
    (after step new ops).transitionCount.toNat + 1 < UInt32.size := by
  have hc := consistent_after ops
  refine ⟨step_failed _, hc, ?_⟩
  have hle := hc.count_le_five
  have hsize : UInt32.size = 4294967296 := rfl
  omega

/-- A session that is active has both its ids, after four transitions; the
activation that came too early counts for nothing. -/
theorem consistent_of_run_active :
    let t := after step new [.processKnk "agent-001", .activateSession "0f8fad5b",
      .evaluatePolicy, .provisionTunnel, .activateSession "7c9e6679"]
    t.state = .sessionActive ∧ t.sessionId.isSome ∧ t.nodeId.isSome ∧
      t.transitionCount.toNat = 4 := by
  obtain ⟨-, hc, -⟩ := consistent_of_run [.processKnk "agent-001", .activateSession "0f8fad5b",
    .evaluatePolicy, .provisionTunnel, .activateSession "7c9e6679"]
  exact ⟨rfl, hc.sessionAlways rfl, hc.node (by decide) (by decide), hc.count (by decide)⟩

end NhpStateMachine

end Controller

end Handshake

end NhpSba
