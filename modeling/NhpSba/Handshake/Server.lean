import NhpSba.Handshake.Lifecycle
import NhpSba.Common.Machine
import Mathlib.Data.List.Induction
/-!
# Handshake — the server's machine lives its sessions in order

Each method is summed up in one equation (`step_processKnk` and the rest),
and all of them in what a call can do (`step_cases`): so every call keeps
the machine in step with the history of the calls that succeeded
(`Tells.step`). So the machine is active exactly after a
handshake, on every run (`handshake_of_run`).
-/

namespace NhpSba

namespace Handshake

open Fallible Machine

namespace Server

namespace NhpStateMachine

variable (m : NhpStateMachine)

/-! ## The methods -/

theorem call_transition (target : NhpState) :
    call (transition target) m =
      if target ∈ validTransitions m.state then
        (.ok (), { m with state := target, transitionCount := m.transitionCount + 1 })
      else (.error ⟨m.state, target⟩, m) := by
  unfold transition
  rw [call_read_bind]
  by_cases h : target ∈ validTransitions m.state
  · rw [if_neg (not_not.2 h), if_pos h, call_write]
  · rw [if_pos h, if_neg h, call_raise]

theorem step_processKnk (nodeId : String) :
    step m (.processKnk nodeId) =
      if m.state = .idle then
        (true, { m with
          nodeId := some nodeId, state := .knockSent, transitionCount := m.transitionCount + 1 })
      else (false, m) := by
  unfold step perform processKnk
  rw [call_read_bind]
  by_cases h : m.state = .idle
  · simp [h, call_transition, validTransitions]
  · simp [h]

/-- A method that only asks the table for a state succeeds in the one state
before it. -/
theorem step_evaluatePolicy :
    step m .evaluatePolicy =
      if m.state = .knockSent then
        (true, { m with state := .policyEval, transitionCount := m.transitionCount + 1 })
      else (false, m) := by
  unfold step perform evaluatePolicy
  cases h : m.state <;> simp [h, call_transition, validTransitions]

theorem step_provisionTunnel :
    step m .provisionTunnel =
      if m.state = .policyEval then
        (true, { m with state := .tunnelProvisioned, transitionCount := m.transitionCount + 1 })
      else (false, m) := by
  unfold step perform provisionTunnel
  cases h : m.state <;> simp [h, call_transition, validTransitions]

/-- A session id is written also by a call that fails. -/
theorem step_activateSession (sessionId : String) :
    step m (.activateSession sessionId) =
      if m.state = .tunnelProvisioned then
        (true, { m with
          sessionId := some sessionId, state := .sessionActive
          transitionCount := m.transitionCount + 1 })
      else (false, { m with sessionId := some sessionId }) := by
  unfold step perform activateSession
  rw [call_write_bind]
  cases m.state <;> simp [call_transition, validTransitions]

/-- A reason is written also by a call that fails. -/
theorem step_terminate (reason : String) :
    step m (.terminate reason) =
      if m.state ≠ .sessionTerminated then
        (true, { m with
          terminationReason := some reason, state := .sessionTerminated
          transitionCount := m.transitionCount + 1 })
      else (false, { m with terminationReason := some reason }) := by
  unfold step perform terminate
  rw [call_write_bind]
  cases m.state <;> simp [call_transition, validTransitions]

theorem step_reset :
    step m .reset =
      if m.state = .sessionTerminated ∨ m.state = .idle then (true, new) else (false, m) := by
  unfold step perform reset
  rw [call_read_bind]
  cases m.state <;> simp

/-- The table has every move. -/
theorem mem_validTransitions {s s' : NhpState} {op : Operation} (hm : Move s op s') :
    s' ∈ validTransitions s := by
  cases hm with
  | terminate reason hs => cases s <;> simp [validTransitions] at hs ⊢
  | _ => simp [validTransitions]

/-- A call that is guarded moves the machine on, or fails and leaves state,
count and node id alone. -/
theorem cases_of_guarded {op : Operation} {p : Prop} [Decidable p] {moved left : NhpStateMachine}
    (h : step m op = if p then (true, moved) else (false, left))
    (hmove : p → Move m.state op moved.state)
    (hcount : moved.transitionCount = m.transitionCount + 1)
    (hnode : moved.nodeId = (knockedAs [op]).or m.nodeId)
    (hleft : left.state = m.state ∧ left.transitionCount = m.transitionCount ∧
      left.nodeId = m.nodeId) :
    ((step m op).1 = true ∧ Move m.state op (step m op).2.state ∧
      (step m op).2.transitionCount = m.transitionCount + 1 ∧
      (step m op).2.nodeId = (knockedAs [op]).or m.nodeId) ∨
    ((step m op).1 = false ∧ (step m op).2.state = m.state ∧
      (step m op).2.transitionCount = m.transitionCount ∧ (step m op).2.nodeId = m.nodeId) := by
  rw [h]
  by_cases hp : p
  · rw [if_pos hp]
    exact .inl ⟨rfl, hmove hp, hcount, hnode⟩
  · rw [if_neg hp]
    exact .inr ⟨rfl, hleft⟩

/-- **What a call can do**: it succeeds and moves the machine on, it resets
it, or it fails and leaves state, count and node id alone. -/
theorem step_cases (op : Operation) :
    ((step m op).1 = true ∧ Move m.state op (step m op).2.state ∧
      (step m op).2.transitionCount = m.transitionCount + 1 ∧
      (step m op).2.nodeId = (knockedAs [op]).or m.nodeId) ∨
    (op = .reset ∧ (m.state = .sessionTerminated ∨ m.state = .idle) ∧ step m op = (true, new)) ∨
    ((step m op).1 = false ∧ (step m op).2.state = m.state ∧
      (step m op).2.transitionCount = m.transitionCount ∧ (step m op).2.nodeId = m.nodeId) := by
  cases op with
  | processKnk nodeId =>
    refine (cases_of_guarded m (step_processKnk m nodeId) (fun hs => ?_) rfl rfl
      ⟨rfl, rfl, rfl⟩).imp_right .inr
    rw [hs]
    exact .knock nodeId
  | evaluatePolicy =>
    refine (cases_of_guarded m (step_evaluatePolicy m) (fun hs => ?_) rfl rfl
      ⟨rfl, rfl, rfl⟩).imp_right .inr
    rw [hs]
    exact .evaluate
  | provisionTunnel =>
    refine (cases_of_guarded m (step_provisionTunnel m) (fun hs => ?_) rfl rfl
      ⟨rfl, rfl, rfl⟩).imp_right .inr
    rw [hs]
    exact .provision
  | activateSession sessionId =>
    -- a call that fails has written its session id all the same
    refine (cases_of_guarded m (step_activateSession m sessionId) (fun hs => ?_) rfl rfl
      ⟨rfl, rfl, rfl⟩).imp_right .inr
    rw [hs]
    exact .activate sessionId
  | terminate reason =>
    exact (cases_of_guarded m (step_terminate m reason) (fun hs => .terminate reason hs) rfl rfl
      ⟨rfl, rfl, rfl⟩).imp_right .inr
  | reset =>
    rw [step_reset]
    by_cases hs : m.state = .sessionTerminated ∨ m.state = .idle
    · exact .inr (.inl ⟨rfl, hs, if_pos hs⟩)
    · rw [if_neg hs]
      exact .inr (.inr ⟨rfl, rfl, rfl, rfl⟩)

/-- **Every change of state is one the table has.** -/
theorem step_state (op : Operation) (h : (step m op).2.state ≠ m.state) :
    (step m op).2.state ∈ validTransitions m.state := by
  rcases step_cases m op with ⟨-, hmove, -, -⟩ | ⟨-, hs, hreset⟩ | ⟨-, hsame, -, -⟩
  · exact mem_validTransitions hmove
  · -- a reset of an idle machine changes no state
    rw [hreset] at h ⊢
    rcases hs with hs | hs
    · rw [hs]
      simp [validTransitions, new]
    · exact absurd hs.symm h
  · exact absurd hsame h

/-! ## The machine and its history -/

/-- The machine tells a history: its state, its count and its node id are
the history's. -/
structure Tells (m : NhpStateMachine) (h : List Operation) : Prop where
  life : Life m.state h
  count : m.transitionCount = h.length
  nodeId : m.nodeId = knockedAs h

variable {m} {h : List Operation}

theorem tells_new : Tells new [] := ⟨.start, rfl, rfl⟩

/-- **Every call keeps the machine in step with its history.** -/
theorem Tells.step (ht : Tells m h) (op : Operation) :
    Tells (step m op).2 (record h (op, (NhpStateMachine.step m op).1)) := by
  rcases step_cases m op with ⟨hok, hmove, hcount, hnode⟩ | ⟨rfl, -, hreset⟩ |
    ⟨hfail, hstate, hcount, hnode⟩
  · rw [hok, record_move hmove]
    refine ⟨ht.life.move hmove, ?_, ?_⟩
    · rw [hcount, ht.count, List.length_append, List.length_singleton]
    · rw [hnode, ht.nodeId, ht.life.knockedAs_move hmove]
  · rw [hreset]
    exact tells_new
  · rw [hfail, record_failed]
    exact ⟨hstate ▸ ht.life, hcount.trans ht.count, hnode.trans ht.nodeId⟩

/-- The history of a run of a new machine. -/
def history (ops : List Operation) : List Operation :=
  (trace step new ops).foldl record []

theorem history_concat (ops : List Operation) (op : Operation) :
    history (ops ++ [op]) = record (history ops) (op, (step (after step new ops) op).1) := by
  simp [history, trace_append]

/-- A run of a new machine tells its history. The induction takes the
run's last call off. -/
theorem tells_after (ops : List Operation) : Tells (after step new ops) (history ops) := by
  induction ops using List.reverseRecOn with
  | nil => exact tells_new
  | append_singleton ops op ih =>
    rw [after_concat, history_concat]
    exact ih.step op

/-- **Authenticated before connected, on every run.** At any point of any
run of a new machine every change of state is one the table has, and the
machine is active exactly when the calls that succeeded since it was new or
last reset are those of a handshake, in order; it counts those calls, five
at most, and its node id is the one they knocked with. -/
theorem handshake_of_run (ops : List Operation) :
    (∀ op, (step (after step new ops) op).2.state ≠ (after step new ops).state →
      (step (after step new ops) op).2.state ∈ validTransitions (after step new ops).state) ∧
    ((after step new ops).state = .sessionActive ↔ IsHandshake (history ops)) ∧
    (after step new ops).transitionCount = (history ops).length ∧
    (after step new ops).transitionCount ≤ 5 ∧
    (after step new ops).nodeId = knockedAs (history ops) := by
  have ht := tells_after ops
  refine ⟨step_state _, ht.life.active_iff, ht.count, ?_, ht.nodeId⟩
  rw [ht.count]
  exact ht.life.length_le_five

/-- A session that is active: after one node was turned away, and a call
out of turn, the other came through. -/
theorem handshake_of_run_active :
    let m := after step new [.processKnk "agent-000", .terminate "denied", .reset,
      .processKnk "agent-001", .provisionTunnel, .evaluatePolicy, .provisionTunnel,
      .activateSession "7c9e6679"]
    m.state = .sessionActive ∧ m.transitionCount = 4 ∧ m.nodeId = some "agent-001" := by
  obtain ⟨-, hactive, hcount, -, hnode⟩ := handshake_of_run [.processKnk "agent-000",
    .terminate "denied", .reset, .processKnk "agent-001", .provisionTunnel, .evaluatePolicy,
    .provisionTunnel, .activateSession "7c9e6679"]
  exact ⟨hactive.2 ⟨"agent-001", "7c9e6679", rfl⟩, hcount, hnode⟩

end NhpStateMachine

end Server

end Handshake

end NhpSba
