import NhpSba.Session.Model.Manager
/-!
# Expired sessions, until somebody cleans up

What a manager has created and not removed is read off its calls
(`registered`). Its map holds of these all that have not expired, and
those of the expired that no cleanup met (`Tracks`): so it answers what
holds at the time of the call exactly when the entry it looks at, or for
a count every entry, has not expired, which is a condition on the calls
before it (`answersRight_iff`).
-/

namespace NhpSba

namespace Session

/-! ## What was created and not removed -/

/-- What a call adds to the sessions created, or takes away. -/
def register (lastInstant timeout : ℕ) (reg : String → Option NhpSession) (call : Call) :
    String → Option NhpSession :=
  match call.request with
  | .createSession sessionId nodeId capabilities =>
    if call.now + timeout ≤ lastInstant then
      Function.update reg sessionId (some
        { sessionId, nodeId, createdAt := call.now, expiresAt := call.now + timeout,
          encryptionKey := none, allowedCapabilities := capabilities })
    else reg
  | .removeSession sessionId => Function.update reg sessionId none
  | _ => reg

/-- The sessions that some calls created and none of them removed. -/
def registered (lastInstant timeout : ℕ) (calls : List Call) : String → Option NhpSession :=
  calls.foldl (register lastInstant timeout) fun _ => none

theorem registered_concat (lastInstant timeout : ℕ) (calls : List Call) (call : Call) :
    registered lastInstant timeout (calls ++ [call])
      = register lastInstant timeout (registered lastInstant timeout calls) call := by
  rw [registered, List.foldl_append]
  rfl

/-- A session id is usable: it was created and not removed, and the current
time is not past its session's end. -/
def Usable (reg : String → Option NhpSession) (now : ℕ) (sessionId : String) : Prop :=
  ∃ session, reg sessionId = some session ∧ now ≤ session.expiresAt

/-- **The answers a manager should give.** A session exactly under a usable
id, and the number of usable ids. -/
def Right (reg : String → Option NhpSession) (now : ℕ) : Request → Answer → Prop
  | .getSession sessionId, .session session => session.isSome = true ↔ Usable reg now sessionId
  | .activeCount, .count n => n = Set.ncard {sessionId | Usable reg now sessionId}
  | _, _ => True

/-- A manager gives them at every call of a run. -/
def AnswersRight (lastInstant : ℕ) (timeoutSecs : UInt64) (calls : List Call) : Prop :=
  ∀ pre call post, calls = pre ++ call :: post →
    Right (registered lastInstant (SessionManager.new timeoutSecs).sessionTimeout pre)
      call.now call.request
      (step lastInstant (Machine.after (step lastInstant) (.new timeoutSecs) pre) call).1

/-- Nothing that has expired is left where a call looks. -/
def Unexpired (m : SessionManager) (call : Call) : Prop :=
  match call.request with
  | .getSession sessionId =>
    ∀ session, m.sessions.lookup sessionId = some session → session.isExpired call.now = false
  | .activeCount =>
    ∀ sessionId session, m.sessions.lookup sessionId = some session →
      session.isExpired call.now = false
  | _ => True

/-- Some `cleanup_expired` came after the session's end. -/
def CleanedUp (calls : List Call) (session : NhpSession) : Prop :=
  ∃ call ∈ calls, call.request = .cleanupExpired ∧ session.isExpired call.now = true

/-- The same of the calls alone: every session that was created and not
removed under the id a call looks at, or for a count under any id, has not
ended yet or was cleaned up since it has. -/
def Tidied (reg : String → Option NhpSession) (earlier : List Call) (call : Call) : Prop :=
  match call.request with
  | .getSession sessionId =>
    ∀ session, reg sessionId = some session →
      session.expiresAt < call.now → CleanedUp earlier session
  | .activeCount =>
    ∀ sessionId session, reg sessionId = some session →
      session.expiresAt < call.now → CleanedUp earlier session
  | _ => True

/-! ## The map against the calls -/

/-- What a map of sessions holds of those the calls created and did not
remove: all but the cleaned up. -/
def Tracks (reg : String → Option NhpSession) (calls : List Call)
    (found : String → Option NhpSession) : Prop :=
  ∀ sessionId session, found sessionId = some session ↔
    reg sessionId = some session ∧ ¬CleanedUp calls session

theorem isExpired_iff {now : ℕ} {session : NhpSession} :
    session.isExpired now = true ↔ session.expiresAt < now := by
  simp [NhpSession.isExpired]

theorem isExpired_eq_false {now : ℕ} {session : NhpSession} :
    session.isExpired now = false ↔ now ≤ session.expiresAt := by
  simp [NhpSession.isExpired]

variable {lastInstant timeout : ℕ} {reg found : String → Option NhpSession} {calls : List Call}
  {m : SessionManager}

theorem cleanedUp_concat {call : Call} {session : NhpSession} :
    CleanedUp (calls ++ [call]) session ↔ CleanedUp calls session ∨
      (call.request = .cleanupExpired ∧ session.isExpired call.now = true) := by
  simp [CleanedUp, or_and_right, exists_or]

/-- No cleanup has come after an end that lies ahead. -/
theorem not_cleanedUp {now : ℕ} {session : NhpSession} (hclock : ∀ call ∈ calls, call.now ≤ now)
    (hlive : now ≤ session.expiresAt) : ¬CleanedUp calls session := by
  rintro ⟨call, hcall, -, hexp⟩
  have hpast := isExpired_iff.1 hexp
  have hle := hclock call hcall
  omega

/-- A call that cleans nothing up changes nothing here. -/
theorem Tracks.later (h : Tracks reg calls found) {call : Call}
    (hcall : call.request ≠ .cleanupExpired) : Tracks reg (calls ++ [call]) found := by
  intro sessionId session
  rw [h sessionId session, cleanedUp_concat]
  simp only [hcall, false_and, or_false]

/-- What both are told of one id, both know. -/
theorem Tracks.update (h : Tracks reg calls found) (sessionId : String)
    {session : Option NhpSession} (hnew : ∀ s ∈ session, ¬CleanedUp calls s) :
    Tracks (Function.update reg sessionId session) calls
      (Function.update found sessionId session) := by
  intro other s
  by_cases hid : other = sessionId
  · subst hid
    rw [Function.update_self, Function.update_self]
    exact ⟨fun hs => ⟨hs, hnew s hs⟩, fun hs => hs.1⟩
  · rw [Function.update_of_ne hid, Function.update_of_ne hid]
    exact h other s

/-- A cleanup drops what it finds expired, and leaves the rest. -/
theorem Tracks.cleanup (h : Tracks reg calls found) {call : Call}
    (hcall : call.request = .cleanupExpired) :
    Tracks reg (calls ++ [call]) fun sessionId =>
      (found sessionId).filter fun session => !session.isExpired call.now := by
  intro sessionId session
  rw [Option.filter_eq_some_iff, h sessionId session, cleanedUp_concat]
  simp only [hcall, true_and, not_or, Bool.not_eq_true', Bool.not_eq_true, and_assoc]

/-- **One call keeps map and calls together**, and the timeout. -/
theorem tracks_step (htimeout : m.sessionTimeout = timeout)
    (h : Tracks reg calls fun sessionId => m.sessions.lookup sessionId) {call : Call}
    (hclock : ∀ earlier ∈ calls, earlier.now ≤ call.now) :
    (step lastInstant m call).2.sessionTimeout = timeout ∧
    Tracks (register lastInstant timeout reg call) (calls ++ [call])
      fun sessionId => (step lastInstant m call).2.sessions.lookup sessionId := by
  obtain ⟨now, request⟩ := call
  cases request with
  | createSession drawn nodeId capabilities =>
    by_cases hfits : now + timeout ≤ lastInstant
    · simp only [register, if_pos hfits, step, SessionManager.createSession,
        SessionManager.instantAdd, htimeout, bind, Except.bind, pure, Except.pure,
        lookup_insert_update]
      refine ⟨trivial, (h.update drawn fun s hs => ?_).later (by simp)⟩
      -- a new session ends no sooner than now
      obtain rfl := Option.some.inj hs
      exact not_cleanedUp hclock (Nat.le_add_right now timeout)
    · -- past the last instant the call panics, and creates nothing
      simp only [register, if_neg hfits, step, SessionManager.createSession,
        SessionManager.instantAdd, htimeout, bind, Except.bind]
      exact ⟨trivial, h.later (by simp)⟩
  | getSession sessionId => exact ⟨htimeout, h.later (by simp)⟩
  | removeSession gone =>
    simp only [register, step, SessionManager.removeSession, lookup_erase_update]
    exact ⟨htimeout, (h.update gone (by simp)).later (by simp)⟩
  | activeCount => exact ⟨htimeout, h.later (by simp)⟩
  | cleanupExpired =>
    simp only [register, step, SessionManager.cleanupExpired, lookup_retain]
    exact ⟨htimeout, h.cleanup rfl⟩

/-- **And so does a run.** -/
theorem tracks_after (lastInstant : ℕ) (timeoutSecs : UInt64) {calls : List Call}
    (hclock : calls.Pairwise fun earlier later => earlier.now ≤ later.now) :
    (Machine.after (step lastInstant) (.new timeoutSecs) calls).sessionTimeout
      = (SessionManager.new timeoutSecs).sessionTimeout ∧
    Tracks (registered lastInstant (SessionManager.new timeoutSecs).sessionTimeout calls) calls
      fun sessionId => (Machine.after (step lastInstant) (.new timeoutSecs)
        calls).sessions.lookup sessionId := by
  induction calls using List.reverseRecOn with
  | nil =>
    refine ⟨rfl, fun sessionId session => ⟨fun hfound => ?_, fun hreg => ?_⟩⟩
    · cases hfound
    · cases hreg.1
  | append_singleton calls call ih =>
    rw [List.pairwise_append] at hclock
    obtain ⟨htimeout, htracks⟩ := ih hclock.1
    rw [registered_concat, Machine.after_concat]
    exact tracks_step htimeout htracks
      fun earlier hearlier => hclock.2.2 earlier hearlier call (List.mem_singleton_self _)

/-! ## One answer -/

variable {now : ℕ}

/-- A usable id is one that the map finds unexpired: what was cleaned up
expired before now, and stays so. -/
theorem usable_iff (h : Tracks reg calls found) (hclock : ∀ call ∈ calls, call.now ≤ now)
    (sessionId : String) :
    Usable reg now sessionId ↔
      ∃ session, found sessionId = some session ∧ session.isExpired now = false := by
  constructor
  · rintro ⟨session, hreg, hlive⟩
    have hfound := (h sessionId session).2 ⟨hreg, not_cleanedUp hclock hlive⟩
    exact ⟨session, hfound, isExpired_eq_false.2 hlive⟩
  · rintro ⟨session, hfound, hlive⟩
    exact ⟨session, ((h sessionId session).1 hfound).1, isExpired_eq_false.1 hlive⟩

/-- **A session is served rightly** exactly when it has not expired. -/
theorem getSession_right (h : Tracks reg calls fun sessionId => m.sessions.lookup sessionId)
    (hclock : ∀ call ∈ calls, call.now ≤ now) (sessionId : String) :
    ((m.getSession sessionId).isSome = true ↔ Usable reg now sessionId) ↔
      ∀ session, m.sessions.lookup sessionId = some session → session.isExpired now = false := by
  rw [usable_iff h hclock, SessionManager.getSession]
  cases hfound : m.sessions.lookup sessionId with
  | none => simp
  | some session => simp

/-- **The sessions are counted rightly** exactly when none has expired. -/
theorem activeCount_right (h : Tracks reg calls fun sessionId => m.sessions.lookup sessionId)
    (hclock : ∀ call ∈ calls, call.now ≤ now) :
    m.activeCount = Set.ncard {sessionId | Usable reg now sessionId} ↔
      ∀ sessionId session, m.sessions.lookup sessionId = some session →
        session.isExpired now = false := by
  have hset : {sessionId | Usable reg now sessionId} =
      {sessionId | ∃ session,
        (retain (fun s : NhpSession => !s.isExpired now) m.sessions).lookup sessionId
          = some session} := by
    ext sessionId
    rw [Set.mem_ofPred_eq, Set.mem_ofPred_eq, usable_iff h hclock]
    simp only [lookup_retain_eq_some, Bool.not_eq_true']
  rw [hset, ncard_lookup, SessionManager.activeCount, eq_comm, length_retain_iff]
  simp only [Bool.not_eq_true']

/-- **Any call is answered rightly** exactly when nothing that has expired
is left where it looks. -/
theorem right_iff (h : Tracks reg calls fun sessionId => m.sessions.lookup sessionId) {call : Call}
    (hclock : ∀ earlier ∈ calls, earlier.now ≤ call.now) :
    Right reg call.now call.request (step lastInstant m call).1 ↔ Unexpired m call := by
  obtain ⟨now, request⟩ := call
  cases request with
  | createSession drawn nodeId capabilities =>
    have htrue : Right reg now (.createSession drawn nodeId capabilities)
        (step lastInstant m ⟨now, .createSession drawn nodeId capabilities⟩).1 := by
      simp only [step]
      split <;> trivial
    exact ⟨fun _ => trivial, fun _ => htrue⟩
  | getSession sessionId => exact getSession_right h hclock sessionId
  | removeSession sessionId => exact Iff.rfl
  | activeCount => exact activeCount_right h hclock
  | cleanupExpired => exact Iff.rfl

/-- A session in the map has not expired, or it is one that the calls left
there past its end. -/
theorem unexpired_found_iff (h : Tracks reg calls found) (sessionId : String) :
    (∀ session, found sessionId = some session → session.isExpired now = false) ↔
      ∀ session, reg sessionId = some session →
        session.expiresAt < now → CleanedUp calls session := by
  constructor
  · intro hmap session hreg hpast
    by_contra hcleaned
    have hlive := isExpired_eq_false.1 (hmap session ((h sessionId session).2 ⟨hreg, hcleaned⟩))
    omega
  · intro hcalls session hfound
    obtain ⟨hreg, hcleaned⟩ := (h sessionId session).1 hfound
    rw [isExpired_eq_false]
    by_contra hpast
    exact hcleaned (hcalls session hreg (Nat.lt_of_not_le hpast))

/-- **The condition on the map is one on the calls.** -/
theorem unexpired_iff (h : Tracks reg calls fun sessionId => m.sessions.lookup sessionId)
    (call : Call) : Unexpired m call ↔ Tidied reg calls call := by
  obtain ⟨now, request⟩ := call
  cases request with
  | getSession sessionId => exact unexpired_found_iff h sessionId
  | activeCount => exact forall_congr' fun sessionId => unexpired_found_iff h sessionId
  | createSession _ _ _ | removeSession _ | cleanupExpired => exact Iff.rfl

/-- **A call of a run**: it is answered rightly exactly when nothing that
has expired is left where it looks, in the map or by the calls. -/
theorem right_after_iff (lastInstant : ℕ) (timeoutSecs : UInt64) {pre post : List Call}
    {call : Call}
    (hclock : (pre ++ call :: post).Pairwise fun earlier later => earlier.now ≤ later.now) :
    (Right (registered lastInstant (SessionManager.new timeoutSecs).sessionTimeout pre)
        call.now call.request
        (step lastInstant (Machine.after (step lastInstant) (.new timeoutSecs) pre) call).1 ↔
      Unexpired (Machine.after (step lastInstant) (.new timeoutSecs) pre) call) ∧
    (Unexpired (Machine.after (step lastInstant) (.new timeoutSecs) pre) call ↔
      Tidied (registered lastInstant (SessionManager.new timeoutSecs).sessionTimeout pre)
        pre call) := by
  obtain ⟨hpre, -, hcall⟩ := List.pairwise_append.1 hclock
  have htracks := (tracks_after lastInstant timeoutSecs hpre).2
  have hearlier : ∀ earlier ∈ pre, earlier.now ≤ call.now := fun earlier hmem =>
    hcall earlier hmem call (List.mem_cons_self ..)
  exact ⟨right_iff htracks hearlier, unexpired_iff htracks call⟩

/-- **When expired sessions are unusable.** Whatever the timeout, a run of
calls at non-decreasing times is answered rightly throughout exactly when
each `get_session` finds no expired session in the map under its id, and
each `active_count` none at all. That is: when each of these sessions was
removed, or met a `cleanup_expired` past its end, before it was looked at. -/
theorem answersRight_iff (lastInstant : ℕ) (timeoutSecs : UInt64) {calls : List Call}
    (hclock : calls.Pairwise fun earlier later => earlier.now ≤ later.now) :
    (AnswersRight lastInstant timeoutSecs calls ↔
      Machine.AllSteps (step lastInstant) Unexpired (.new timeoutSecs) calls) ∧
    (AnswersRight lastInstant timeoutSecs calls ↔
      ∀ pre call post, calls = pre ++ call :: post →
        Tidied (registered lastInstant (SessionManager.new timeoutSecs).sessionTimeout pre)
          pre call) := by
  constructor
  · refine forall₄_congr fun pre call post hsplit => ?_
    rw [hsplit] at hclock
    exact (right_after_iff lastInstant timeoutSecs hclock).1
  · refine forall₄_congr fun pre call post hsplit => ?_
    rw [hsplit] at hclock
    obtain ⟨hmap, hcalls⟩ := right_after_iff lastInstant timeoutSecs hclock
    exact hmap.trans hcalls

/-- A session of one second that is looked at in its last moment, cleaned up
in the next, and from then on neither served nor counted. -/
def tidyCalls : List Call :=
  [⟨0, .createSession "7c9e6679" "agent-001" ["read"]⟩,
    ⟨1000000000, .getSession "7c9e6679"⟩,
    ⟨1000000001, .cleanupExpired⟩,
    ⟨1000000001, .getSession "7c9e6679"⟩,
    ⟨1000000001, .activeCount⟩]

/-- All of it is answered rightly. -/
theorem answersRight_iff_tidy : AnswersRight (2 ^ 93) 1 tidyCalls := by
  refine (answersRight_iff (2 ^ 93) 1 (by decide)).2.2 ?_
  rw [tidyCalls, Machine.forall_split_cons, Machine.forall_split_cons, Machine.forall_split_cons,
    Machine.forall_split_cons, Machine.forall_split_cons]
  refine ⟨trivial, ?_, trivial, ?_, ?_, Machine.forall_split_nil⟩
  · intro session hreg hpast
    obtain rfl := Option.some.inj hreg
    exact absurd hpast (by decide)
  · intro session hreg _
    obtain rfl := Option.some.inj hreg
    exact ⟨⟨1000000001, .cleanupExpired⟩, by simp, rfl, by decide⟩
  · intro sessionId session hreg _
    have hid : sessionId = "7c9e6679" := by
      by_contra hid
      have hnone := (Function.update_of_ne hid _ fun _ => none).symm.trans hreg
      cases hnone
    subst hid
    obtain rfl := Option.some.inj hreg
    exact ⟨⟨1000000001, .cleanupExpired⟩, by simp, rfl, by decide⟩

/-- A session that was over at once is served ten milliseconds later. -/
theorem expired_served :
    ¬∀ (lastInstant : ℕ) (timeoutSecs : UInt64) (calls : List Call),
      (calls.Pairwise fun earlier later => earlier.now ≤ later.now) →
        AnswersRight lastInstant timeoutSecs calls := by
  intro h
  have hserved := (h (2 ^ 93) 0
    [⟨0, .createSession "7c9e6679" "agent-001" []⟩, ⟨10000000, .getSession "7c9e6679"⟩]
    (by decide)) [⟨0, .createSession "7c9e6679" "agent-001" []⟩]
    ⟨10000000, .getSession "7c9e6679"⟩ [] rfl
  obtain ⟨session, hreg, hlive⟩ := hserved.1 rfl
  have hsession := Option.some.inj hreg
  rw [← hsession] at hlive
  exact absurd hlive (by decide)

end Session

end NhpSba
