import NhpSba.Handshake.Model.Server
/-!
# Handshake — the life of a session

What a machine has been through since it was new: the operations that
succeeded, in order. `Life` says which such histories there are and the
state each leads to: a session is knocked for, evaluated, provisioned and
activated, in that order, and may end at any point.
-/

namespace NhpSba

namespace Handshake

/-- `Life s h`: the operations of `h`, and no others, lead from a new
machine to the state `s`. -/
inductive Life : NhpState → List Operation → Prop
  | start : Life .idle []
  | knock {h : List Operation} (nodeId : String) :
      Life .idle h → Life .knockSent (h ++ [.processKnk nodeId])
  | evaluate {h : List Operation} :
      Life .knockSent h → Life .policyEval (h ++ [.evaluatePolicy])
  | provision {h : List Operation} :
      Life .policyEval h → Life .tunnelProvisioned (h ++ [.provisionTunnel])
  | activate {h : List Operation} (sessionId : String) :
      Life .tunnelProvisioned h → Life .sessionActive (h ++ [.activateSession sessionId])
  | terminate {s : NhpState} {h : List Operation} (reason : String) :
      Life s h → s ≠ .sessionTerminated → Life .sessionTerminated (h ++ [.terminate reason])

/-- One step of a life: a state, an operation, and the state it leads to. -/
inductive Move : NhpState → Operation → NhpState → Prop
  | knock (nodeId : String) : Move .idle (.processKnk nodeId) .knockSent
  | evaluate : Move .knockSent .evaluatePolicy .policyEval
  | provision : Move .policyEval .provisionTunnel .tunnelProvisioned
  | activate (sessionId : String) :
      Move .tunnelProvisioned (.activateSession sessionId) .sessionActive
  | terminate {s : NhpState} (reason : String) :
      s ≠ .sessionTerminated → Move s (.terminate reason) .sessionTerminated

/-- The state the last operation of a history leads to. -/
def stateAfter : Option Operation → NhpState
  | none => .idle
  | some (.processKnk _) => .knockSent
  | some .evaluatePolicy => .policyEval
  | some .provisionTunnel => .tunnelProvisioned
  | some (.activateSession _) => .sessionActive
  | some (.terminate _) => .sessionTerminated
  | some .reset => .idle

/-- How many operations lead to a state that is not terminated. -/
def stage : NhpState → ℕ
  | .idle => 0
  | .knockSent => 1
  | .policyEval => 2
  | .tunnelProvisioned => 3
  | .sessionActive => 4
  | .sessionTerminated => 5

/-- The node id a history knocked with. -/
def knockedAs (h : List Operation) : Option String :=
  h.findSome? fun op =>
    match op with
    | .processKnk nodeId => some nodeId
    | _ => none

/-- The four operations of a handshake, in order. -/
def IsHandshake (h : List Operation) : Prop :=
  ∃ nodeId sessionId, h =
    [.processKnk nodeId, .evaluatePolicy, .provisionTunnel, .activateSession sessionId]

variable {s s' : NhpState} {op : Operation} {h : List Operation}

/-- A life goes on with any move. -/
theorem Life.move (hl : Life s h) (hm : Move s op s') : Life s' (h ++ [op]) := by
  cases hm with
  | knock nodeId => exact .knock nodeId hl
  | evaluate => exact .evaluate hl
  | provision => exact .provision hl
  | activate sessionId => exact .activate sessionId hl
  | terminate reason hs => exact .terminate reason hl hs

/-- A history tells its state. -/
theorem Life.state_eq (hl : Life s h) : s = stateAfter h.getLast? := by
  cases hl <;> simp [stateAfter]

theorem Life.idle_eq (hl : Life .idle h) : h = [] := by
  cases hl
  rfl

/-- A session is active exactly after the four operations of a handshake. -/
theorem Life.active_iff (hl : Life s h) : s = .sessionActive ↔ IsHandshake h := by
  constructor
  · rintro rfl
    rcases hl with _ | _ | _ | _ | @⟨h, sessionId, hl⟩
    rcases hl with _ | _ | _ | @⟨h, hl⟩
    rcases hl with _ | _ | @⟨h, hl⟩
    rcases hl with _ | @⟨h, nodeId, hl⟩
    exact ⟨nodeId, sessionId, by rw [hl.idle_eq]; rfl⟩
  · rintro ⟨nodeId, sessionId, rfl⟩
    exact hl.state_eq

/-- A history is as long as its state is far on, and a terminated one no
longer than that. -/
theorem Life.length_le (hl : Life s h) :
    h.length ≤ stage s ∧ (s ≠ .sessionTerminated → h.length = stage s) := by
  induction hl with
  | start => exact ⟨Nat.le_refl _, fun _ => rfl⟩
  | knock nodeId _ ih => simp [ih.2, stage]
  | evaluate _ ih => simp [ih.2, stage]
  | provision _ ih => simp [ih.2, stage]
  | activate sessionId _ ih => simp [ih.2, stage]
  | @terminate s h reason _ hs ih =>
    refine ⟨?_, fun hne => absurd rfl hne⟩
    have hlen := ih.2 hs
    have hstage : stage s ≤ 4 := by cases s <;> simp_all [stage]
    rw [List.length_append, List.length_singleton, hlen]
    exact Nat.succ_le_succ hstage

theorem Life.length_le_five (hl : Life s h) : h.length ≤ 5 := by
  have hstage : stage s ≤ 5 := by cases s <;> simp [stage]
  exact Nat.le_trans hl.length_le.1 hstage

/-- Only the first operation knocks: what a move knocks with and what its
past knocked with are never both there. -/
theorem Life.knockedAs_move (hl : Life s h) (hm : Move s op s') :
    knockedAs (h ++ [op]) = (knockedAs [op]).or (knockedAs h) := by
  cases hm with
  | knock nodeId =>
    rw [hl.idle_eq]
    rfl
  | _ => simp [knockedAs, List.findSome?_append]

/-! ## Keeping a history -/

/-- What a call adds to the history since the machine was new or last
reset: a reset that succeeds starts it again, any other call that succeeds
adds itself, and one that fails adds nothing. -/
def record (h : List Operation) (call : Operation × Bool) : List Operation :=
  match call with
  | (.reset, true) => []
  | (op, true) => h ++ [op]
  | (_, false) => h

theorem record_move (hm : Move s op s') : record h (op, true) = h ++ [op] := by
  cases hm <;> rfl

theorem record_failed : record h (op, false) = h := by
  cases op <;> rfl

end Handshake

end NhpSba
