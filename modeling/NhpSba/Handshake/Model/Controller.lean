import NhpSba.Handshake.Model.Server
/-!
# Handshake — the access controller's state machine

The access controller's `NhpStateMachine`: each method checks the state
first and writes afterwards. Its transition counter is a `u32`.
-/

namespace NhpSba

namespace Handshake

open Fallible

namespace Controller

/-- `{:?}` of a state. -/
def debug : NhpState → String
  | .idle => "Idle"
  | .knockSent => "KnockSent"
  | .policyEval => "PolicyEval"
  | .tunnelProvisioned => "TunnelProvisioned"
  | .sessionActive => "SessionActive"
  | .sessionTerminated => "SessionTerminated"

inductive StateMachineError
  | invalidTransition (source target : String)
  | terminalState (name : String)

/-- The error's text. -/
def StateMachineError.message : StateMachineError → String
  | .invalidTransition source target => s!"Invalid transition: {source} -> {target}"
  | .terminalState name => s!"Already in terminal state: {name}"

structure NhpStateMachine where
  state : NhpState
  terminationReason : Option String
  nodeId : Option String
  sessionId : Option String
  transitionCount : UInt32

namespace NhpStateMachine

/-- `new`. -/
def new : NhpStateMachine where
  state := .idle
  terminationReason := none
  nodeId := none
  sessionId := none
  transitionCount := 0

/-- `ensure_not_terminated`. -/
def ensureNotTerminated : Fallible StateMachineError NhpStateMachine Unit := do
  let self ← read
  if self.state = .sessionTerminated then raise (.terminalState "terminated") else pure ()

/-- `ensure_state`. -/
def ensureState (expected : NhpState) (targetName : String) :
    Fallible StateMachineError NhpStateMachine Unit := do
  let self ← read
  if self.state ≠ expected then raise (.invalidTransition (debug self.state) targetName)
  else pure ()

/-- `transition`. -/
def transition (target : NhpState) : Fallible StateMachineError NhpStateMachine Unit :=
  write fun m => { m with state := target, transitionCount := m.transitionCount + 1 }

/-- `process_knk`. -/
def processKnk (nodeId : String) : Fallible StateMachineError NhpStateMachine Unit := do
  ensureNotTerminated
  ensureState .idle "KnockSent"
  write fun m => { m with nodeId := some nodeId }
  transition .knockSent

/-- `evaluate_policy`. -/
def evaluatePolicy : Fallible StateMachineError NhpStateMachine Unit := do
  ensureNotTerminated
  ensureState .knockSent "PolicyEval"
  transition .policyEval

/-- `provision_tunnel`. -/
def provisionTunnel : Fallible StateMachineError NhpStateMachine Unit := do
  ensureNotTerminated
  ensureState .policyEval "TunnelProvisioned"
  transition .tunnelProvisioned

/-- `activate_session`. -/
def activateSession (sessionId : String) : Fallible StateMachineError NhpStateMachine Unit := do
  ensureNotTerminated
  ensureState .tunnelProvisioned "SessionActive"
  write fun m => { m with sessionId := some sessionId }
  transition .sessionActive

/-- `terminate`. -/
def terminate (reason : String) : Fallible StateMachineError NhpStateMachine Unit := do
  let self ← read
  if self.state = .sessionTerminated then raise (.terminalState "terminated")
  else do
    write fun m => { m with terminationReason := some reason }
    transition .sessionTerminated

/-- `reset`, which cannot fail. -/
def reset (_self : NhpStateMachine) : NhpStateMachine := new

/-- The method an operation calls. -/
def perform : Operation → Fallible StateMachineError NhpStateMachine Unit
  | .processKnk nodeId => processKnk nodeId
  | .evaluatePolicy => evaluatePolicy
  | .provisionTunnel => provisionTunnel
  | .activateSession sessionId => activateSession sessionId
  | .terminate reason => terminate reason
  | .reset => write reset

/-- One call: whether it succeeded, and the machine after it. -/
def step (self : NhpStateMachine) (op : Operation) : Bool × NhpStateMachine :=
  let result := call (perform op) self
  (succeeded result.1, result.2)

end NhpStateMachine

end Controller

end Handshake

end NhpSba
