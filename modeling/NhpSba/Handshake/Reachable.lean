import NhpSba.Handshake.Mirror
/-!
# Handshake — the reachable machines

A machine is where its operations have brought it: it came as far as some
state, and may have ended there (`Came`). The access controller's fields
say no more than that, and all of it can be reached. The server's agree but
for the session id, which a call that fails leaves behind: short of an
active session there may be any, or none (`reachable_iff`).
-/

namespace NhpSba

namespace Handshake

open Fallible Machine

/-! ## How far a machine came -/

/-- A machine came as far as a state, and is there or has ended there. Its
node id is from the knock, and its count from the transitions. -/
structure Came (last state : NhpState) (reason nodeId : Option String) (count : ℕ) : Prop where
  alive : last ≠ .sessionTerminated
  ended : (state = last ∧ reason = none ∧ count = stage last) ∨
    (state = .sessionTerminated ∧ reason.isSome ∧ count = stage last + 1)
  knocked : nodeId.isSome ↔ last ≠ .idle

variable {last state next : NhpState} {reason nodeId nodeId' : Option String} {count : ℕ}

theorem came_new : Came .idle .idle none none 0 where
  alive := by simp
  ended := Or.inl ⟨rfl, rfl, rfl⟩
  knocked := by simp

/-- A machine that has not ended is where it came. -/
theorem Came.state_eq (h : Came last state reason nodeId count) (hs : state ≠ .sessionTerminated) :
    state = last ∧ reason = none ∧ count = stage last := by
  rcases h.ended with hthere | ⟨hended, -⟩
  · exact hthere
  · exact absurd hended hs

/-- One transition further on. -/
theorem Came.move (h : Came last state reason nodeId count) (hs : state ≠ .sessionTerminated)
    (hstage : stage next = stage state + 1) (hnext : next ≠ .sessionTerminated)
    (hknocked : nodeId'.isSome) : Came next next reason nodeId' (count + 1) := by
  obtain ⟨rfl, hreason, hcount⟩ := h.state_eq hs
  refine ⟨hnext, Or.inl ⟨rfl, hreason, ?_⟩, ?_⟩
  · rw [hcount, hstage]
  · refine iff_of_true hknocked ?_
    rintro rfl
    cases hstage

theorem Came.isSome_nodeId (h : Came last state reason nodeId count) (hs : state ≠ .idle)
    (hs' : state ≠ .sessionTerminated) : nodeId.isSome := by
  obtain ⟨rfl, -, -⟩ := h.state_eq hs'
  exact h.knocked.2 hs

/-- One that has ended may be given another reason. -/
theorem Came.reasoned (h : Came last state reason nodeId count)
    (hs : state = .sessionTerminated) (r : String) : Came last state (some r) nodeId count := by
  rcases h.ended with ⟨rfl, -, -⟩ | ⟨-, -, hcount⟩
  · exact absurd hs h.alive
  · exact ⟨h.alive, Or.inr ⟨hs, rfl, hcount⟩, h.knocked⟩

/-- And its end. -/
theorem Came.terminate (h : Came last state reason nodeId count)
    (hs : state ≠ .sessionTerminated) (r : String) :
    Came last .sessionTerminated (some r) nodeId (count + 1) := by
  obtain ⟨-, -, hcount⟩ := h.state_eq hs
  exact ⟨h.alive, Or.inr ⟨rfl, rfl, congrArg (· + 1) hcount⟩, h.knocked⟩

/-! ## The server's machine -/

namespace Server.NhpStateMachine

variable {m : NhpStateMachine} {sessionId : Option String}

/-- What a reachable machine of the server is like: an active session has
an id, and so has one that was active as it ended. -/
def Legal (m : NhpStateMachine) : Prop :=
  ∃ last, Came last m.state m.terminationReason m.nodeId m.transitionCount ∧
    (last = .sessionActive → m.sessionId.isSome)

theorem legal_new : Legal new := ⟨.idle, came_new, by simp⟩

/-- **Every call keeps it legal**, also one that fails and leaves something
behind. -/
theorem Legal.step (hm : Legal m) (op : Operation) : Legal (step m op).2 := by
  obtain ⟨last, hcame, hsession⟩ := hm
  have hknocked := hcame.isSome_nodeId
  cases op with
  | processKnk nodeId =>
    rw [step_processKnk]
    split
    · next hs =>
      exact ⟨.knockSent, hcame.move (by simp [hs]) (by rw [hs]; rfl) (by simp) rfl, by simp⟩
    · exact ⟨last, hcame, hsession⟩
  | evaluatePolicy =>
    rw [step_evaluatePolicy]
    split
    · next hs =>
      have hnode := hknocked (by simp [hs]) (by simp [hs])
      exact ⟨.policyEval, hcame.move (by simp [hs]) (by rw [hs]; rfl) (by simp) hnode, by simp⟩
    · exact ⟨last, hcame, hsession⟩
  | provisionTunnel =>
    rw [step_provisionTunnel]
    split
    · next hs =>
      have hnode := hknocked (by simp [hs]) (by simp [hs])
      exact ⟨.tunnelProvisioned, hcame.move (by simp [hs]) (by rw [hs]; rfl) (by simp) hnode,
        by simp⟩
    · exact ⟨last, hcame, hsession⟩
  | activateSession sessionId =>
    rw [step_activateSession]
    split
    · next hs =>
      have hnode := hknocked (by simp [hs]) (by simp [hs])
      exact ⟨.sessionActive, hcame.move (by simp [hs]) (by rw [hs]; rfl) (by simp) hnode,
        fun _ => rfl⟩
    · exact ⟨last, hcame, fun _ => rfl⟩
  | terminate reason =>
    rw [step_terminate]
    split
    · next hs => exact ⟨last, hcame.terminate hs reason, hsession⟩
    · next hs => exact ⟨last, hcame.reasoned (not_not.1 hs) reason, hsession⟩
  | reset =>
    rw [step_reset]
    split
    · exact legal_new
    · exact ⟨last, hcame, hsession⟩

/-- A machine that has come somewhere and not ended. -/
def there (last : NhpState) (nodeId sessionId : Option String) : NhpStateMachine where
  state := last
  terminationReason := none
  sessionId
  nodeId
  transitionCount := stage last

/-- A call that fails leaves any session id at the start. -/
theorem reaches_idle (sessionId : Option String) :
    Reaches step new (there .idle none sessionId) := by
  cases sessionId with
  | none => exact .start new
  | some id =>
    have hstart : Reaches step new new := .start new
    have hleft := hstart.call (.activateSession id)
    rwa [step_activateSession, if_neg (by simp [new])] at hleft

theorem reaches_knockSent (nodeId : String) (sessionId : Option String) :
    Reaches step new (there .knockSent (some nodeId) sessionId) :=
  (reaches_idle sessionId).guarded (step_processKnk _ nodeId) rfl

theorem reaches_policyEval (nodeId : String) (sessionId : Option String) :
    Reaches step new (there .policyEval (some nodeId) sessionId) :=
  (reaches_knockSent nodeId sessionId).guarded (step_evaluatePolicy _) rfl

theorem reaches_tunnelProvisioned (nodeId : String) (sessionId : Option String) :
    Reaches step new (there .tunnelProvisioned (some nodeId) sessionId) :=
  (reaches_policyEval nodeId sessionId).guarded (step_provisionTunnel _) rfl

theorem reaches_sessionActive (nodeId id : String) :
    Reaches step new (there .sessionActive (some nodeId) (some id)) :=
  (reaches_tunnelProvisioned nodeId none).guarded (step_activateSession _ id) rfl

/-- **A machine comes as far as it can**, with any session id short of an
active session. -/
theorem reaches_there {last : NhpState} {nodeId : Option String}
    (halive : last ≠ .sessionTerminated) (hknocked : nodeId.isSome ↔ last ≠ .idle)
    (hsession : last = .sessionActive → sessionId.isSome) :
    Reaches step new (there last nodeId sessionId) := by
  by_cases hidle : last = .idle
  · subst hidle
    obtain rfl : nodeId = none := by simpa using hknocked
    exact reaches_idle sessionId
  · obtain ⟨node, rfl⟩ := Option.isSome_iff_exists.1 (hknocked.2 hidle)
    cases last with
    | idle => exact absurd rfl hidle
    | knockSent => exact reaches_knockSent node sessionId
    | policyEval => exact reaches_policyEval node sessionId
    | tunnelProvisioned => exact reaches_tunnelProvisioned node sessionId
    | sessionActive =>
      obtain ⟨id, rfl⟩ := Option.isSome_iff_exists.1 (hsession rfl)
      exact reaches_sessionActive node id
    | sessionTerminated => exact absurd rfl halive

/-- **A legal machine is reached.** -/
theorem Legal.reaches (hm : Legal m) : Reaches NhpStateMachine.step new m := by
  obtain ⟨last, hcame, hsession⟩ := hm
  have hthere := reaches_there hcame.alive hcame.knocked hsession
  obtain ⟨state, terminationReason, sessionId, nodeId, transitionCount⟩ := m
  rcases hcame.ended with ⟨hstate, hreason, hcount⟩ | ⟨hstate, hreason, hcount⟩
  · obtain rfl : state = last := hstate
    obtain rfl : terminationReason = none := hreason
    obtain rfl : transitionCount = stage state := hcount
    exact hthere
  · obtain ⟨reason, hreason⟩ := Option.isSome_iff_exists.1 hreason
    obtain rfl : state = .sessionTerminated := hstate
    obtain rfl : terminationReason = some reason := hreason
    obtain rfl : transitionCount = stage last + 1 := hcount
    exact hthere.guarded (step_terminate _ reason) hcame.alive

end Server.NhpStateMachine

/-! ## The access controller's machine -/

namespace Controller.NhpStateMachine

variable {t : NhpStateMachine} {sessionId : Option String}

/-- What a reachable machine of the access controller is like: an active
session has an id, and one that was active as it ended, and no other. -/
def Legal (t : NhpStateMachine) : Prop :=
  ∃ last, Came last t.state t.terminationReason t.nodeId t.transitionCount.toNat ∧
    (t.sessionId.isSome ↔ last = .sessionActive)

theorem legal_new : Legal new := ⟨.idle, came_new, by simp [new]⟩

/-- **Every call keeps it legal**, since one that fails leaves it alone. -/
theorem Legal.step (hc : Consistent t) (hm : Legal t) (op : Operation) : Legal (step t op).2 := by
  obtain ⟨last, hcame, hsession⟩ := hm
  have hknocked := hcame.isSome_nodeId
  -- the counter does not wrap, so what it counts is one more
  have hmove : ∀ {next : NhpState} {nodeId : Option String}, t.state ≠ .sessionTerminated →
      stage next = stage t.state + 1 → next ≠ .sessionTerminated → nodeId.isSome →
      Came next next t.terminationReason nodeId (t.transitionCount + 1).toNat := by
    intro next nodeId hs hstage hnext hnode
    rw [hc.count_succ]
    exact hcame.move hs hstage hnext hnode
  have hlast : t.state ≠ .sessionTerminated → (t.sessionId.isSome ↔ t.state = .sessionActive) := by
    intro hs
    rw [(hcame.state_eq hs).1]
    exact hsession
  cases op with
  | processKnk nodeId =>
    refine kept_of_guarded (step_processKnk t nodeId) ⟨last, hcame, hsession⟩ fun hs => ?_
    have hno := hlast (by simp [hs])
    exact ⟨.knockSent, hmove (by simp [hs]) (by rw [hs]; rfl) (by simp) rfl, by simp [hno, hs]⟩
  | evaluatePolicy =>
    refine kept_of_guarded (step_evaluatePolicy t) ⟨last, hcame, hsession⟩ fun hs => ?_
    have hno := hlast (by simp [hs])
    have hnode := hknocked (by simp [hs]) (by simp [hs])
    exact ⟨.policyEval, hmove (by simp [hs]) (by rw [hs]; rfl) (by simp) hnode, by simp [hno, hs]⟩
  | provisionTunnel =>
    refine kept_of_guarded (step_provisionTunnel t) ⟨last, hcame, hsession⟩ fun hs => ?_
    have hno := hlast (by simp [hs])
    have hnode := hknocked (by simp [hs]) (by simp [hs])
    exact ⟨.tunnelProvisioned, hmove (by simp [hs]) (by rw [hs]; rfl) (by simp) hnode,
      by simp [hno, hs]⟩
  | activateSession sessionId =>
    refine kept_of_guarded (step_activateSession t sessionId) ⟨last, hcame, hsession⟩ fun hs => ?_
    have hnode := hknocked (by simp [hs]) (by simp [hs])
    exact ⟨.sessionActive, hmove (by simp [hs]) (by rw [hs]; rfl) (by simp) hnode, by simp⟩
  | terminate reason =>
    refine kept_of_guarded (step_terminate t reason) ⟨last, hcame, hsession⟩ fun hs => ?_
    refine ⟨last, ?_, hsession⟩
    dsimp only
    rw [hc.count_succ]
    exact hcame.terminate hs reason
  | reset => exact legal_new

/-- A machine that has come somewhere and not ended. -/
def there (last : NhpState) (nodeId sessionId : Option String) : NhpStateMachine where
  state := last
  nodeId
  sessionId
  terminationReason := none
  transitionCount := UInt32.ofNat (stage last)

theorem reaches_knockSent (nodeId : String) :
    Reaches step new (there .knockSent (some nodeId) none) :=
  (Reaches.start new).guarded (step_processKnk _ nodeId) rfl

theorem reaches_policyEval (nodeId : String) :
    Reaches step new (there .policyEval (some nodeId) none) :=
  (reaches_knockSent nodeId).guarded (step_evaluatePolicy _) rfl

theorem reaches_tunnelProvisioned (nodeId : String) :
    Reaches step new (there .tunnelProvisioned (some nodeId) none) :=
  (reaches_policyEval nodeId).guarded (step_provisionTunnel _) rfl

theorem reaches_sessionActive (nodeId id : String) :
    Reaches step new (there .sessionActive (some nodeId) (some id)) :=
  (reaches_tunnelProvisioned nodeId).guarded (step_activateSession _ id) rfl

/-- **A machine comes as far as it can.** -/
theorem reaches_there {last : NhpState} {nodeId : Option String}
    (halive : last ≠ .sessionTerminated) (hknocked : nodeId.isSome ↔ last ≠ .idle)
    (hsession : sessionId.isSome ↔ last = .sessionActive) :
    Reaches step new (there last nodeId sessionId) := by
  by_cases hactive : last = .sessionActive
  · subst hactive
    obtain ⟨node, rfl⟩ := Option.isSome_iff_exists.1 (hknocked.2 (by decide))
    obtain ⟨id, rfl⟩ := Option.isSome_iff_exists.1 (hsession.2 rfl)
    exact reaches_sessionActive node id
  · obtain rfl : sessionId = none := by simpa [hactive] using hsession
    by_cases hidle : last = .idle
    · subst hidle
      obtain rfl : nodeId = none := by simpa using hknocked
      exact .start new
    · obtain ⟨node, rfl⟩ := Option.isSome_iff_exists.1 (hknocked.2 hidle)
      cases last with
      | idle => exact absurd rfl hidle
      | knockSent => exact reaches_knockSent node
      | policyEval => exact reaches_policyEval node
      | tunnelProvisioned => exact reaches_tunnelProvisioned node
      | sessionActive => exact absurd rfl hactive
      | sessionTerminated => exact absurd rfl halive

/-- **A legal machine is reached.** -/
theorem Legal.reaches (ht : Legal t) : Reaches NhpStateMachine.step new t := by
  obtain ⟨last, hcame, hsession⟩ := ht
  have hthere := reaches_there hcame.alive hcame.knocked hsession
  obtain ⟨state, terminationReason, nodeId, sessionId, transitionCount⟩ := t
  rcases hcame.ended with ⟨hstate, hreason, hcount⟩ | ⟨hstate, hreason, hcount⟩
  · obtain rfl : state = last := hstate
    obtain rfl : terminationReason = none := hreason
    obtain rfl : transitionCount = UInt32.ofNat (stage state) := by
      rw [← hcount, UInt32.ofNat_toNat]
    exact hthere
  · obtain ⟨reason, hreason⟩ := Option.isSome_iff_exists.1 hreason
    obtain rfl : state = .sessionTerminated := hstate
    obtain rfl : terminationReason = some reason := hreason
    obtain rfl : transitionCount = UInt32.ofNat (stage last) + 1 := by
      have hcount' := congrArg UInt32.ofNat hcount
      rwa [UInt32.ofNat_toNat, UInt32.ofNat_add] at hcount'
    exact hthere.guarded (step_terminate _ reason) hcame.alive

end Controller.NhpStateMachine

theorem legal_of_reaches_server {m : Server.NhpStateMachine}
    (h : Reaches Server.NhpStateMachine.step .new m) : m.Legal :=
  h.invariant Server.NhpStateMachine.legal_new fun _ op hm => hm.step op

theorem legal_of_reaches_controller {t : Controller.NhpStateMachine}
    (h : Reaches Controller.NhpStateMachine.step .new t) : t.Legal :=
  (h.invariant (I := fun t => t.Consistent ∧ t.Legal)
    ⟨Controller.NhpStateMachine.consistent_new, Controller.NhpStateMachine.legal_new⟩
    fun _ op ht => ⟨ht.1.step op, ht.2.step ht.1 op⟩).2

/-! ## The two machines -/

theorem Came.count_le (h : Came last state reason nodeId count) : count ≤ 5 := by
  have hstage : stage last ≤ 4 := by
    cases last with
    | sessionTerminated => exact absurd rfl h.alive
    | _ => simp [stage]
  rcases h.ended with ⟨-, -, hcount⟩ | ⟨-, -, hcount⟩
  · omega
  · omega

/-- Where a machine came as far as an active session, it shows. -/
theorem Came.active_iff (h : Came last state reason nodeId count) :
    last = .sessionActive ↔ state = .sessionActive ∨ count = 5 := by
  constructor
  · rintro rfl
    rcases h.ended with ⟨hstate, -, -⟩ | ⟨-, -, hcount⟩
    · exact Or.inl hstate
    · exact Or.inr hcount
  · rintro (rfl | rfl)
    · exact (h.state_eq (by simp)).1.symm
    · have hstages := h.ended
      have halive := h.alive
      cases last with
      | sessionActive => rfl
      | sessionTerminated => exact absurd rfl halive
      | _ => simp [stage] at hstages

/-- The server's machine that holds what one of the access controller does. -/
def mirror (t : Controller.NhpStateMachine) : Server.NhpStateMachine where
  state := t.state
  terminationReason := t.terminationReason
  sessionId := t.sessionId
  nodeId := t.nodeId
  transitionCount := t.transitionCount.toNat

theorem corresponds_mirror (t : Controller.NhpStateMachine) : Corresponds (mirror t) t :=
  ⟨rfl, rfl, rfl, rfl, rfl⟩

/-- **What the access controller reaches the server reaches.** -/
theorem legal_mirror {t : Controller.NhpStateMachine} (ht : t.Legal) : (mirror t).Legal := by
  obtain ⟨last, hcame, hsession⟩ := ht
  exact ⟨last, hcame, hsession.2⟩

/-- **What the server reaches the access controller reaches** only where
the session id was not left by a call that failed. -/
theorem exists_corresponds_iff {m : Server.NhpStateMachine} (hm : m.Legal) :
    (∃ t : Controller.NhpStateMachine, t.Legal ∧ Corresponds m t) ↔
      (m.sessionId.isSome → m.state = .sessionActive ∨ m.transitionCount = 5) := by
  constructor
  · rintro ⟨t, ⟨last, hcame, hsession⟩, hc⟩ hsome
    rw [hc.state, hc.transitionCount]
    rw [hc.sessionId] at hsome
    exact hcame.active_iff.1 (hsession.1 hsome)
  · intro hshows
    obtain ⟨last, hcame, hsession⟩ := hm
    have hsize : UInt32.size = 4294967296 := rfl
    have hle := hcame.count_le
    have hcount : (UInt32.ofNat m.transitionCount).toNat = m.transitionCount :=
      UInt32.toNat_ofNat_of_lt' (by omega)
    refine ⟨⟨m.state, m.terminationReason, m.nodeId, m.sessionId, UInt32.ofNat m.transitionCount⟩,
      ⟨last, ?_, fun hsome => hcame.active_iff.2 (hshows hsome), hsession⟩,
      ⟨rfl, rfl, rfl, rfl, hcount.symm⟩⟩
    dsimp only
    rw [hcount]
    exact hcame

/-- **The reachable machines**, of the server and of the access controller.
Every one of the latter's has a mirror among the former's, and one of the
server's is a mirror exactly where a session id shows that there was an
active session. -/
theorem reachable_machines :
    (∀ m : Server.NhpStateMachine, Reaches Server.NhpStateMachine.step .new m ↔ m.Legal) ∧
    (∀ t : Controller.NhpStateMachine, Reaches Controller.NhpStateMachine.step .new t ↔ t.Legal) ∧
    (∀ t : Controller.NhpStateMachine, Reaches Controller.NhpStateMachine.step .new t →
      ∃ m, Reaches Server.NhpStateMachine.step .new m ∧ Corresponds m t) ∧
    ∀ m : Server.NhpStateMachine, Reaches Server.NhpStateMachine.step .new m →
      ((∃ t, Reaches Controller.NhpStateMachine.step .new t ∧ Corresponds m t) ↔
        (m.sessionId.isSome → m.state = .sessionActive ∨ m.transitionCount = 5)) := by
  have hserver : ∀ m : Server.NhpStateMachine,
      Reaches Server.NhpStateMachine.step .new m ↔ m.Legal :=
    fun m => ⟨legal_of_reaches_server, fun hm => hm.reaches⟩
  have hcontroller : ∀ t : Controller.NhpStateMachine,
      Reaches Controller.NhpStateMachine.step .new t ↔ t.Legal :=
    fun t => ⟨legal_of_reaches_controller, fun ht => ht.reaches⟩
  refine ⟨hserver, hcontroller, fun t ht => ?_, fun m hm => ?_⟩
  · exact ⟨mirror t, (hserver _).2 (legal_mirror ((hcontroller t).1 ht)), corresponds_mirror t⟩
  · simp only [hcontroller]
    exact exists_corresponds_iff ((hserver m).1 hm)

end Handshake

end NhpSba
