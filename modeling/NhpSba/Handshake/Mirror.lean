import NhpSba.Handshake.Server
import NhpSba.Handshake.Controller
/-!
# Handshake — where the two machines part

The access controller's machine is to mirror the server's. It checks
before it writes; the server's writes a session id and a termination reason
before it checks, and refuses a reset that the other always makes. Those
three calls are all that tells them apart (`lockstep_iff_mirrored`).
-/

namespace NhpSba

namespace Handshake

open Machine

/-! ## The two machines in lockstep -/

/-- The two machines hold the same: state, termination reason, node id,
session id and transition count. -/
structure Corresponds (s : Server.NhpStateMachine) (t : Controller.NhpStateMachine) : Prop where
  state : s.state = t.state
  terminationReason : s.terminationReason = t.terminationReason
  nodeId : s.nodeId = t.nodeId
  sessionId : s.sessionId = t.sessionId
  transitionCount : s.transitionCount = t.transitionCount.toNat

/-- The calls the two machines answer alike. Where an activation or a
termination fails, it is one that would write what is there already; and a
reset comes where the server allows one. -/
def Mirrored (s : Server.NhpStateMachine) : Operation → Prop
  | .activateSession sessionId =>
    s.state = .tunnelProvisioned ∨ s.sessionId = some sessionId
  | .terminate reason => s.state ≠ .sessionTerminated ∨ s.terminationReason = some reason
  | .reset => s.state = .sessionTerminated ∨ s.state = .idle
  | _ => True

variable {s : Server.NhpStateMachine} {t : Controller.NhpStateMachine}

/-- A machine that tells a history has counted at most five calls, so the
other's counter does not wrap. -/
theorem Corresponds.count_succ (hs : ∃ h, s.Tells h) (hc : Corresponds s t) :
    s.transitionCount + 1 = (t.transitionCount + 1).toNat := by
  obtain ⟨h, ht⟩ := hs
  have hle : s.transitionCount ≤ 5 := ht.count ▸ ht.life.length_le_five
  have hcount := hc.transitionCount
  have hone : (1 : UInt32).toNat = 1 := rfl
  rw [UInt32.toNat_add, hone]
  omega

/-- One call: from corresponding machines, the two answer alike and still
correspond exactly when the call is mirrored. That the server's machine
tells a history keeps its count far from the counter's end. -/
theorem step_mirrored_iff (hs : ∃ h, s.Tells h) (hc : Corresponds s t) (op : Operation) :
    ((s.step op).1 = (t.step op).1 ∧ Corresponds (s.step op).2 (t.step op).2) ↔
      Mirrored s op := by
  have hcount := hc.count_succ hs
  cases op with
  | processKnk nodeId =>
    rw [Server.NhpStateMachine.step_processKnk, Controller.NhpStateMachine.step_processKnk,
      ← hc.state]
    by_cases h : s.state = .idle
    · rw [if_pos h, if_pos h]
      exact ⟨fun _ => trivial,
        fun _ => ⟨rfl, rfl, hc.terminationReason, rfl, hc.sessionId, hcount⟩⟩
    · rw [if_neg h, if_neg h]
      exact ⟨fun _ => trivial, fun _ => ⟨rfl, hc⟩⟩
  | evaluatePolicy =>
    rw [Server.NhpStateMachine.step_evaluatePolicy, Controller.NhpStateMachine.step_evaluatePolicy,
      ← hc.state]
    by_cases h : s.state = .knockSent
    · rw [if_pos h, if_pos h]
      exact ⟨fun _ => trivial,
        fun _ => ⟨rfl, rfl, hc.terminationReason, hc.nodeId, hc.sessionId, hcount⟩⟩
    · rw [if_neg h, if_neg h]
      exact ⟨fun _ => trivial, fun _ => ⟨rfl, hc⟩⟩
  | provisionTunnel =>
    rw [Server.NhpStateMachine.step_provisionTunnel,
      Controller.NhpStateMachine.step_provisionTunnel, ← hc.state]
    by_cases h : s.state = .policyEval
    · rw [if_pos h, if_pos h]
      exact ⟨fun _ => trivial,
        fun _ => ⟨rfl, rfl, hc.terminationReason, hc.nodeId, hc.sessionId, hcount⟩⟩
    · rw [if_neg h, if_neg h]
      exact ⟨fun _ => trivial, fun _ => ⟨rfl, hc⟩⟩
  | activateSession sessionId =>
    rw [Server.NhpStateMachine.step_activateSession,
      Controller.NhpStateMachine.step_activateSession, ← hc.state]
    by_cases h : s.state = .tunnelProvisioned
    · rw [if_pos h, if_pos h]
      exact ⟨fun _ => Or.inl h,
        fun _ => ⟨rfl, rfl, hc.terminationReason, hc.nodeId, rfl, hcount⟩⟩
    · -- the server's machine has written the session id it was given
      rw [if_neg h, if_neg h]
      refine ⟨fun hagree => Or.inr ?_, fun hmirrored => ⟨rfl, ?_⟩⟩
      · exact hc.sessionId.trans hagree.2.sessionId.symm
      · have hsame := hmirrored.resolve_left h
        exact ⟨hc.state, hc.terminationReason, hc.nodeId, hsame.symm.trans hc.sessionId,
          hc.transitionCount⟩
  | terminate reason =>
    rw [Server.NhpStateMachine.step_terminate, Controller.NhpStateMachine.step_terminate,
      ← hc.state]
    by_cases h : s.state ≠ .sessionTerminated
    · rw [if_pos h, if_pos h]
      exact ⟨fun _ => Or.inl h, fun _ => ⟨rfl, rfl, rfl, hc.nodeId, hc.sessionId, hcount⟩⟩
    · -- the server's machine has written the reason it was given
      rw [if_neg h, if_neg h]
      refine ⟨fun hagree => Or.inr ?_, fun hmirrored => ⟨rfl, ?_⟩⟩
      · exact hc.terminationReason.trans hagree.2.terminationReason.symm
      · have hsame := hmirrored.resolve_left h
        exact ⟨hc.state, hsame.symm.trans hc.terminationReason, hc.nodeId, hc.sessionId,
          hc.transitionCount⟩
  | reset =>
    rw [Server.NhpStateMachine.step_reset, Controller.NhpStateMachine.step_reset]
    by_cases h : s.state = .sessionTerminated ∨ s.state = .idle
    · rw [if_pos h]
      exact ⟨fun _ => h, fun _ => ⟨rfl, rfl, rfl, rfl, rfl, rfl⟩⟩
    · -- the access controller's machine resets all the same
      rw [if_neg h]
      exact ⟨fun hagree => absurd hagree.1 Bool.false_ne_true, fun hmirrored => absurd hmirrored h⟩

/-- **Where the two machines mirror each other.** A run of the two from new
machines agrees at every call exactly when each of its calls is mirrored. -/
theorem lockstep_iff_mirrored (ops : List Operation) :
    Lockstep Server.NhpStateMachine.step Controller.NhpStateMachine.step Corresponds .new .new ops ↔
      AllSteps Server.NhpStateMachine.step Mirrored .new ops :=
  lockstep_iff (I := fun s : Server.NhpStateMachine => ∃ h, s.Tells h)
    (fun _ op ⟨_, h⟩ => ⟨_, h.step op⟩) (fun _ _ op hs hc => step_mirrored_iff hs hc op)
    ⟨[], Server.NhpStateMachine.tells_new⟩ ⟨rfl, rfl, rfl, rfl, rfl⟩ ops

/-- **Three calls tell the two machines apart**: a reset in the middle of
a handshake, which the server refuses; an activation that fails, which
leaves its session id with the server; and a second termination, which
leaves its reason. -/
theorem not_lockstep :
    ¬ Lockstep Server.NhpStateMachine.step Controller.NhpStateMachine.step Corresponds .new .new
        [.processKnk "agent-001", .reset] ∧
    ¬ Lockstep Server.NhpStateMachine.step Controller.NhpStateMachine.step Corresponds .new .new
        [.activateSession "sess-123"] ∧
    ¬ Lockstep Server.NhpStateMachine.step Controller.NhpStateMachine.step Corresponds .new .new
        [.terminate "first", .terminate "second"] := by
  refine ⟨fun h => ?_, fun h => ?_, fun h => ?_⟩
  · have hreset := (h [.processKnk "agent-001"] .reset [] rfl).1
    revert hreset
    decide
  · have hid := (h [] (.activateSession "sess-123") [] rfl).2.sessionId
    revert hid
    decide
  · have hreason := (h [.terminate "first"] (.terminate "second") [] rfl).2.terminationReason
    revert hreason
    decide

end Handshake

end NhpSba
