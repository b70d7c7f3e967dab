import NhpSba.Common.Crypto
import NhpSba.Common.Machine
import NhpSba.Common.Lookup
import NhpSba.Rust.Panic
/-!
# The session manager

`SessionManager` keeps the sessions of the access controller in a map. A
session ends at the instant written into it, and `cleanup_expired` drops
the sessions that have ended. The clock's reading and the drawn session
id are inputs of a call.
-/

namespace NhpSba

namespace Session

open Rust

/-- An active NHP session; instants count nanoseconds. -/
structure NhpSession where
  sessionId : String
  nodeId : String
  createdAt : ℕ
  expiresAt : ℕ
  encryptionKey : Option (Octets 32)
  allowedCapabilities : List String
  deriving DecidableEq

/-- `is_expired`, when the clock reads `now`. -/
def NhpSession.isExpired (now : ℕ) (session : NhpSession) : Bool := now > session.expiresAt

/-- Session manager for tracking active NHP sessions. -/
structure SessionManager where
  sessions : AList fun _ : String => NhpSession
  /-- Nanoseconds. -/
  sessionTimeout : ℕ

namespace SessionManager

/-- `new`. -/
def new (timeoutSecs : UInt64) : SessionManager :=
  { sessions := ∅, sessionTimeout := timeoutSecs.toNat * 1000000000 }

/-- `now + duration` of an `Instant`: panics past the last instant that the
platform can represent. -/
def instantAdd (lastInstant now duration : ℕ) : Checked ℕ :=
  if now + duration ≤ lastInstant then .ok (now + duration) else .error .overflow

/-- `create_session`, with the id that `Uuid::new_v4` draws. -/
def createSession (lastInstant now : ℕ) (sessionId nodeId : String) (capabilities : List String)
    (m : SessionManager) : Checked (String × SessionManager) := do
  let expiresAt ← instantAdd lastInstant now m.sessionTimeout
  let session : NhpSession :=
    { sessionId, nodeId, createdAt := now, expiresAt, encryptionKey := none,
      allowedCapabilities := capabilities }
  return (sessionId, { m with sessions := m.sessions.insert sessionId session })

/-- `get_session`. -/
def getSession (sessionId : String) (m : SessionManager) : Option NhpSession :=
  m.sessions.lookup sessionId

/-- `remove_session`. -/
def removeSession (sessionId : String) (m : SessionManager) :
    Option NhpSession × SessionManager :=
  (m.sessions.lookup sessionId, { m with sessions := m.sessions.erase sessionId })

/-- `active_count`. -/
def activeCount (m : SessionManager) : ℕ := m.sessions.entries.length

/-- `cleanup_expired`. -/
def cleanupExpired (now : ℕ) (m : SessionManager) : ℕ × SessionManager :=
  let kept := retain (fun session => !session.isExpired now) m.sessions
  (m.sessions.entries.length - kept.entries.length, { m with sessions := kept })

end SessionManager

/-- What is asked of a manager. -/
inductive Request
  | createSession (sessionId nodeId : String) (capabilities : List String)
  | getSession (sessionId : String)
  | removeSession (sessionId : String)
  | activeCount
  | cleanupExpired
  deriving DecidableEq

/-- A call, and the clock's reading at it. -/
structure Call where
  now : ℕ
  request : Request
  deriving DecidableEq

/-- What a manager answers. -/
inductive Answer
  | created (sessionId : Checked String)
  | session (session : Option NhpSession)
  | removed (session : Option NhpSession)
  | count (n : ℕ)
  | cleaned (n : ℕ)

/-- One call. A `create_session` that panics does so before it writes. -/
def step (lastInstant : ℕ) (m : SessionManager) (call : Call) : Answer × SessionManager :=
  match call.request with
  | .createSession sessionId nodeId capabilities =>
    match m.createSession lastInstant call.now sessionId nodeId capabilities with
    | .ok (drawn, m') => (.created (.ok drawn), m')
    | .error panic => (.created (.error panic), m)
  | .getSession sessionId => (.session (m.getSession sessionId), m)
  | .removeSession sessionId => ((.removed (m.removeSession sessionId).1), (m.removeSession sessionId).2)
  | .activeCount => (.count m.activeCount, m)
  | .cleanupExpired => (.cleaned (m.cleanupExpired call.now).1, (m.cleanupExpired call.now).2)

end Session

end NhpSba
