import NhpSba.Common.Fallible
import Mathlib.Algebra.Order.Ring.Rat
import Mathlib.Data.Finset.Insert
/-!
# The naming resolution service

`resolve_intent` refuses a query whose `jti` it has seen, that has
expired, or whose lifetime as declared is over thirty seconds; it records
the `jti` of any other and goes on to resolve it. The two copies of the
endpoint differ in the identity they answer with.
-/

namespace NhpSba

namespace Api

open Fallible

/-- The intent classes a query may name. -/
def intentClasses : List String := ["monitor", "remediate", "provision", "optimize"]

structure ContextPreferences where
  minCeiThreshold : ℤ
  maxEdnsTolerance : ℚ
  latencyBoundMs : ℤ
  preferredDomain : String
  minCeiThreshold_mem : 0 ≤ minCeiThreshold ∧ minCeiThreshold ≤ 100
  maxEdnsTolerance_mem : 0 ≤ maxEdnsTolerance ∧ maxEdnsTolerance ≤ 1
  latencyBoundMs_pos : 0 < latencyBoundMs

/-- `AgentDnsQuery`, and `NhpNrsQuery` in the other copy. -/
structure AgentDnsQuery where
  serviceIdentifier : String
  intentClass : String
  agentRole : String
  contextPreferences : ContextPreferences
  policyTokenReference : String
  intentClass_mem : intentClass ∈ intentClasses

/-- `AgentDnsResponse`, and `NhpNrsResponse` in the other copy. -/
structure AgentDnsResponse where
  nhpServerId : String
  publicKey : String
  supportedNoisePatterns : List String
  maxSessionDurationMs : ℤ
  deriving DecidableEq

/-- A request that FastAPI refuses. -/
structure HTTPException where
  statusCode : ℕ
  detail : String
  deriving DecidableEq

/-- A call of the endpoint: the body, the headers it reads, and
`int(time.time())`. -/
structure Resolve where
  query : AgentDnsQuery
  jti : String
  iat : ℤ
  exp : ℤ
  now : ℤ

/-- `resolve_intent`, over the replay cache, with the identity that the copy
answers with. -/
def resolveIntent (nhpServerId : String) (request : Resolve) :
    Fallible HTTPException (Finset String) AgentDnsResponse := do
  let replayCache ← read
  if request.jti ∈ replayCache then
    raise ⟨400, "Replay attack detected"⟩
  else if request.now > request.exp then
    raise ⟨400, "Query expired"⟩
  else if request.exp - request.iat > 30 then
    raise ⟨400, "Expiration window too large (>30s)"⟩
  else do
    write fun cache => insert request.jti cache
    if request.query.contextPreferences.maxEdnsTolerance < 1 / 10 then
      raise ⟨403, "No service instance meets EDNS tolerance"⟩
    else
      return { nhpServerId
               publicKey := "base64-encoded-ed25519-public-key-here"
               supportedNoisePatterns := ["IK", "XX"]
               maxSessionDurationMs := 300000 }

/-- `resolve_intent` of `nhp_nrs.py`. -/
def NhpNrs.resolveIntent : Resolve → Fallible HTTPException (Finset String) AgentDnsResponse :=
  Api.resolveIntent "nhp_sba://server/core-pdp-01"

/-- `resolve_intent` of `nrs.py`. -/
def Nrs.resolveIntent : Resolve → Fallible HTTPException (Finset String) AgentDnsResponse :=
  Api.resolveIntent "nhp-sba://server/core-pdp-01"

end Api

end NhpSba
