import NhpSba.Common.Machine
import Mathlib.Algebra.Order.Ring.Rat
import Mathlib.Data.List.AList
/-!
# The rate limiter in front of the API

`RateLimitMiddleware` keeps, for each client address, the times of the
requests it forwarded, and prunes the list of an address when that
address is heard from again. There is no `await` between reading the list
and writing it, so requests run through it one after another.
-/

namespace NhpSba

namespace Api

/-- What the middleware reads of a request, and the clock's reading. -/
structure Request where
  /-- `request.client.host`, of a request that has a client. -/
  client : Option String
  time : ℚ
  deriving DecidableEq

/-- `request.client.host if request.client else "unknown"`. -/
def Request.clientIp (request : Request) : String := request.client.getD "unknown"

/-- What the middleware does with a request. -/
inductive Response
  /-- `call_next(request)`. -/
  | forwarded
  | refused (statusCode : ℕ) (error message : String)
  deriving DecidableEq

/-- Whether a request went on. -/
def Response.isForwarded : Response → Bool
  | .forwarded => true
  | .refused _ _ _ => false

namespace RateLimitMiddleware

/-- `_request_counts`. -/
abbrev RequestCounts := AList fun _ : String => List ℚ

/-- `self._request_counts[client_ip]`. -/
def entry (counts : RequestCounts) (clientIp : String) : List ℚ := (counts.lookup clientIp).getD []

/-- `dispatch`. -/
def dispatch (maxRequests windowSeconds : ℤ) (counts : RequestCounts) (request : Request) :
    Response × RequestCounts :=
  let clientIp := request.clientIp
  let now := request.time
  let counts := if clientIp ∈ counts then counts else counts.insert clientIp []
  let counts := counts.insert clientIp
    ((entry counts clientIp).filter fun ts => now - ts < windowSeconds)
  if maxRequests ≤ (entry counts clientIp).length then
    (.refused 429 "rate_limit_exceeded"
      s!"Rate limit of {maxRequests} requests per {windowSeconds}s exceeded", counts)
  else
    (.forwarded, counts.insert clientIp (entry counts clientIp ++ [now]))

end RateLimitMiddleware

end Api

end NhpSba
