import NhpSba.Api.Model.RateLimit
import NhpSba.Api.Model.Routes
import NhpSba.Common.System
/-!
# The service: a limiter in front of the API

`create_app` puts the rate limiter outermost and the knock route behind
it. The limiter decides on a request as it comes; what it forwards waits
its turn at the event loop, in no particular order, and is answered by one
uninterrupted call of `submit_knk`. The trust store may change in between.
The mediation middleware, which `main.py` imports under a name that nothing
has, passes on whatever is for this route, and is left out.
-/

namespace NhpSba

namespace Api

open Knock Policy Fallible RateLimitMiddleware

/-- A request for the knock route, with its body. -/
structure Submission where
  request : Request
  body : KnkSubmitRequest

/-- The service: the limiter's lists, the validator, and what was
forwarded and not answered yet. -/
structure Service (K : Type) where
  requestCounts : RequestCounts
  validator : NhpJwtValidator K
  waiting : List Submission

/-- What happens to the service. -/
inductive Event (K : Type)
  /-- A request comes: one for the knock route with a body that FastAPI
  reads, or any other. -/
  | comes (request : Request) (body : Option KnkSubmitRequest)
  /-- A waiting submission is answered. -/
  | answers (submission : Submission) (ambient : RequestAmbient)
  /-- The trust store is changed. -/
  | manages (trustStore : TrustStore K)

/-- The times an event reads, in order. -/
def Event.readings {K : Type} : Event K → List ℚ
  | .comes request _ => [request.time]
  | .answers _ ambient =>
    [ambient.parsing, ambient.evaluation.clock.expiration, ambient.evaluation.clock.nonce,
      ambient.evaluation.now]
  | .manages _ => []

/-- The arguments `create_app` gives the service's parts. -/
structure ServiceConfig (K J : Type) where
  packages : Packages K J
  gates : MAMAConfig
  maxRequests : ℤ
  windowSeconds : ℤ

namespace Service

variable {K J : Type} (C : ServiceConfig K J)

/-- The limiter's verdict on a request. -/
def verdict (counts : RequestCounts) (request : Request) : Bool :=
  (dispatch C.maxRequests C.windowSeconds counts request).1.isForwarded

/-- The submission that a request is, where the limiter lets it through. -/
def admitted (counts : RequestCounts) (request : Request) (body : Option KnkSubmitRequest) :
    Option Submission :=
  if verdict C counts request then body.map (Submission.mk request) else none

/-- What one event does to the service. -/
def Next : Event K → Service K → Service K → Prop
  | .comes request body, service, service' =>
    service' = {
      service with
      requestCounts := (dispatch C.maxRequests C.windowSeconds service.requestCounts request).2
      waiting := service.waiting ++ (admitted C service.requestCounts request body).toList }
  | .answers submission ambient, service, service' =>
    ∃ before behind, service.waiting = before ++ submission :: behind ∧
      service' = {
        service with
        validator :=
          (call (submitKnk C.packages C.gates submission.body ambient) service.validator).2
        waiting := before ++ behind }
  | .manages trustStore, service, service' =>
    service' = { service with validator := { service.validator with trustStore } }

/-- The service, which starts with a new limiter and a new validator. -/
def system : System (Event K) (Service K) where
  Init service := ∃ trustStore, service = ⟨∅, .new trustStore, []⟩
  Next := Next C

/-- A step of the service. -/
abbrev Step (K : Type) := Service K × Event K × Service K

/-- What a step sends back: the answer to the submission it answers. -/
def answer : Step K → Option (Except HTTPException KnkSubmitResponse)
  | (service, .answers submission ambient, _) =>
    some (call (submitKnk C.packages C.gates submission.body ambient) service.validator).1
  | _ => none

/-- The clock does not go back in a run. -/
def ClockForward (ts : List (Step K)) : Prop :=
  (ts.flatMap fun t => t.2.1.readings).Pairwise (· ≤ ·)

end Service

end Api

end NhpSba
