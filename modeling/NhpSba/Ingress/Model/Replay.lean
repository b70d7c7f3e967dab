import Mathlib.Algebra.Group.Nat.Defs
import Mathlib.Data.Finset.Card
/-!
# Ingress — the replay protection cache

The access controller's `ReplayProtectionCache`. Instants are nanoseconds
from a fixed one; a call reads the clock at one instant.
-/

namespace NhpSba

namespace Ingress

structure ReplayProtectionCache where
  seen : Finset String
  maxEntries : ℕ
  expiry : ℕ
  lastCleanup : ℕ

/-- A nonce presented at an instant. -/
structure Presented where
  nonce : String
  now : ℕ

namespace ReplayProtectionCache

/-- `Duration::from_secs`. -/
def fromSecs (secs : UInt64) : ℕ := secs.toNat * 10 ^ 9

/-- `new`, at an instant. -/
def new (maxEntries : ℕ) (expirySecs : UInt64) (now : ℕ) : ReplayProtectionCache where
  seen := ∅
  maxEntries := maxEntries
  expiry := fromSecs expirySecs
  lastCleanup := now

/-- `maybe_cleanup`. -/
def maybeCleanup (self : ReplayProtectionCache) (now : ℕ) : ReplayProtectionCache :=
  if self.expiry < now - self.lastCleanup then { self with seen := ∅, lastCleanup := now }
  else self

/-- `check_and_add`. A full set makes room by forgetting all it holds. -/
def checkAndAdd (self : ReplayProtectionCache) (call : Presented) :
    Bool × ReplayProtectionCache :=
  let cleaned := self.maybeCleanup call.now
  if call.nonce ∈ cleaned.seen then (false, cleaned)
  else
    -- the eviction of the oldest entries is one of all entries
    let room := if cleaned.maxEntries ≤ cleaned.seen.card then ∅ else cleaned.seen
    (true, { cleaned with seen := insert call.nonce room })

end ReplayProtectionCache

end Ingress

end NhpSba
