import NhpSba.Common.Fallible
import Mathlib.Data.List.Basic
/-!
# Handshake — the server's state machine

The server's `NhpStateMachine`: a table of transitions, and methods that
write their own fields and then ask the table. A method that raises keeps
what it wrote before.
-/

namespace NhpSba

namespace Handshake

open Fallible

/-- The operations on a machine, on either side. -/
inductive Operation
  | processKnk (nodeId : String)
  | evaluatePolicy
  | provisionTunnel
  | activateSession (sessionId : String)
  | terminate (reason : String)
  | reset
  deriving DecidableEq

/-- The protocol's states, on either side. -/
inductive NhpState
  | idle
  | knockSent
  | policyEval
  | tunnelProvisioned
  | sessionActive
  | sessionTerminated
  deriving DecidableEq

namespace Server

/-- `state.value`. -/
def value : NhpState → String
  | .idle => "S0_IDLE"
  | .knockSent => "S1_KNOCK_SENT"
  | .policyEval => "S2_POLICY_EVAL"
  | .tunnelProvisioned => "S3_TUNNEL_PROVISIONED"
  | .sessionActive => "S4_SESSION_ACTIVE"
  | .sessionTerminated => "S5_SESSION_TERMINATED"

/-- `VALID_TRANSITIONS`. -/
def validTransitions : NhpState → List NhpState
  | .idle => [.knockSent, .sessionTerminated]
  | .knockSent => [.policyEval, .sessionTerminated]
  | .policyEval => [.tunnelProvisioned, .sessionTerminated]
  | .tunnelProvisioned => [.sessionActive, .sessionTerminated]
  | .sessionActive => [.sessionTerminated]
  | .sessionTerminated => [.idle]

structure InvalidStateTransition where
  current : NhpState
  target : NhpState

/-- `str(exc)`. -/
def InvalidStateTransition.message (exc : InvalidStateTransition) : String :=
  s!"Invalid transition: {value exc.current} -> {value exc.target}"

structure NhpStateMachine where
  state : NhpState
  terminationReason : Option String
  sessionId : Option String
  nodeId : Option String
  transitionCount : ℕ

namespace NhpStateMachine

/-- `NhpStateMachine()`. -/
def new : NhpStateMachine where
  state := .idle
  terminationReason := none
  sessionId := none
  nodeId := none
  transitionCount := 0

/-- `_transition`. -/
def transition (target : NhpState) : Fallible InvalidStateTransition NhpStateMachine Unit := do
  let self ← read
  if target ∉ validTransitions self.state then
    raise ⟨self.state, target⟩
  else
    write fun m => { m with state := target, transitionCount := m.transitionCount + 1 }

/-- `process_knk`. -/
def processKnk (nodeId : String) : Fallible InvalidStateTransition NhpStateMachine Unit := do
  let self ← read
  if self.state ≠ .idle then
    raise ⟨self.state, .knockSent⟩
  else do
    write fun m => { m with nodeId := some nodeId }
    transition .knockSent

/-- `evaluate_policy`. -/
def evaluatePolicy : Fallible InvalidStateTransition NhpStateMachine Unit :=
  transition .policyEval

/-- `provision_tunnel`. -/
def provisionTunnel : Fallible InvalidStateTransition NhpStateMachine Unit :=
  transition .tunnelProvisioned

/-- `activate_session`. -/
def activateSession (sessionId : String) :
    Fallible InvalidStateTransition NhpStateMachine Unit := do
  -- written before the table is asked, so kept when it refuses
  write fun m => { m with sessionId := some sessionId }
  transition .sessionActive

/-- `terminate`. -/
def terminate (reason : String) : Fallible InvalidStateTransition NhpStateMachine Unit := do
  -- kept when the session had ended already
  write fun m => { m with terminationReason := some reason }
  transition .sessionTerminated

/-- `reset`. -/
def reset : Fallible InvalidStateTransition NhpStateMachine Unit := do
  let self ← read
  if self.state ≠ .sessionTerminated ∧ self.state ≠ .idle then
    raise ⟨self.state, .idle⟩
  else
    write fun _ => new

/-- The method an operation calls. -/
def perform : Operation → Fallible InvalidStateTransition NhpStateMachine Unit
  | .processKnk nodeId => processKnk nodeId
  | .evaluatePolicy => evaluatePolicy
  | .provisionTunnel => provisionTunnel
  | .activateSession sessionId => activateSession sessionId
  | .terminate reason => terminate reason
  | .reset => reset

/-- One call, whose exception is caught: whether it succeeded, and the
machine after it. -/
def step (self : NhpStateMachine) (op : Operation) : Bool × NhpStateMachine :=
  let result := call (perform op) self
  (succeeded result.1, result.2)

end NhpStateMachine

end Server

end Handshake

end NhpSba
