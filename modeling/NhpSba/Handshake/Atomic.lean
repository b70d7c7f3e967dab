import NhpSba.Handshake.Server
/-!
# Handshake — what a refused call leaves behind

A method of the server's machine that raises is to leave it as it was. Two
methods write their argument before they ask the table: an activation that
is refused leaves its session id, a second termination its reason. So a
refused call leaves no trace exactly when it is neither, or brings what is
there already (`untouched_iff`).
-/

namespace NhpSba

namespace Handshake

open Machine

namespace Server

namespace NhpStateMachine

/-- If the call raises, the machine is as before. -/
def Untouched (m : NhpStateMachine) (op : Operation) : Prop :=
  (step m op).1 = false → (step m op).2 = m

/-- The call is one the table has, or what it writes first is there
already. -/
def NothingToWrite (m : NhpStateMachine) : Operation → Prop
  | .activateSession sessionId =>
    m.state = .tunnelProvisioned ∨ m.sessionId = some sessionId
  | .terminate reason => m.state ≠ .sessionTerminated ∨ m.terminationReason = some reason
  | _ => True

theorem untouched_iff (m : NhpStateMachine) (op : Operation) :
    Untouched m op ↔ NothingToWrite m op := by
  cases op with
  | processKnk nodeId => exact iff_of_true (unchanged_of_failed (step_processKnk m nodeId)) trivial
  | evaluatePolicy => exact iff_of_true (unchanged_of_failed (step_evaluatePolicy m)) trivial
  | provisionTunnel => exact iff_of_true (unchanged_of_failed (step_provisionTunnel m)) trivial
  | activateSession sessionId =>
    unfold Untouched
    rw [step_activateSession]
    by_cases hs : m.state = .tunnelProvisioned
    · rw [if_pos hs]
      refine iff_of_true (fun h => ?_) (Or.inl hs)
      cases h
    · -- refused, with its session id written
      rw [if_neg hs]
      constructor
      · intro h
        exact Or.inr (congrArg NhpStateMachine.sessionId (h rfl)).symm
      · rintro (h | h) -
        · exact absurd h hs
        · rw [← h]
  | terminate reason =>
    unfold Untouched
    rw [step_terminate]
    by_cases hs : m.state ≠ .sessionTerminated
    · rw [if_pos hs]
      refine iff_of_true (fun h => ?_) (Or.inl hs)
      cases h
    · -- refused, with its reason written
      rw [if_neg hs]
      constructor
      · intro h
        exact Or.inr (congrArg NhpStateMachine.terminationReason (h rfl)).symm
      · rintro (h | h) -
        · exact absurd h hs
        · rw [← h]
  | reset => exact iff_of_true (unchanged_of_failed (step_reset m)) trivial

/-- **When refused calls leave no trace.** A call after any run of a new
machine leaves it untouched where it is refused, exactly when there is
nothing to write; and all calls of a run do, exactly when none of them has
anything to write. -/
theorem untouched_of_run (ops : List Operation) :
    (∀ op, Untouched (after step new ops) op ↔ NothingToWrite (after step new ops) op) ∧
    (AllSteps step Untouched new ops ↔ AllSteps step NothingToWrite new ops) := by
  refine ⟨untouched_iff _, ?_⟩
  unfold AllSteps
  simp only [untouched_iff]

/-- **Two calls leave a trace**: an activation that a new machine refuses
leaves its session id, and a second termination overwrites the reason. -/
theorem not_untouched :
    ¬ Untouched (after step new []) (.activateSession "sess-123") ∧
    ¬ Untouched (after step new [.terminate "first"]) (.terminate "second") := by
  constructor
  · intro h
    have hid := congrArg NhpStateMachine.sessionId (h rfl)
    revert hid
    decide
  · intro h
    have hreason := congrArg NhpStateMachine.terminationReason (h rfl)
    revert hreason
    decide

end NhpStateMachine

end Server

end Handshake

end NhpSba
