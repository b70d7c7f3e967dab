import NhpSba.Api.Model.Nrs
import NhpSba.Knock.Model.Parser
import NhpSba.Policy.Model.DecisionEngine
/-!
# The API's routes — submitting a knock

`submit_knk`: the payload of the request is written out again as JSON,
parsed and validated, and given to the policy engine. Whatever the parser
raises is answered 400 and whatever the engine raises 500, each with the
exception's text.
-/

namespace NhpSba

namespace Api

open Knock Policy Fallible

/-- What the route takes from its packages. -/
structure Packages (K J : Type) where
  runtime : Runtime K J
  schema : Schema
  /-- `orjson.dumps(payload)`. -/
  orjsonDumps : Dict → Except PyException Bytes

/-- `KnkSubmitRequest`, as FastAPI has read it. -/
structure KnkSubmitRequest where
  payload : Dict
  ceiMetrics : CEIMetrics

/-- `KnkSubmitResponse`. -/
structure KnkSubmitResponse where
  requestId : String
  decision : String
  reason : Option String := none
  sessionId : Option String := none
  validatedNodeId : Option String := none

/-- What one request draws from outside: the parser's clock reading, what
the engine draws, and the text of a `uuid4`. -/
structure RequestAmbient where
  parsing : ℚ
  evaluation : Ambient
  uuid : String

variable {K J : Type} (pkgs : Packages K J) (config : MAMAConfig)

/-- The payload of a request, through JSON and the parser. -/
def readKnock (body : KnkSubmitRequest) (now : ℚ) : Except PyException NhpKnkPayload := do
  let payloadBytes ← pkgs.orjsonDumps body.payload
  NhpKnkParser.fullValidate pkgs.runtime pkgs.schema payloadBytes now

/-- `submit_knk`. -/
def submitKnk (body : KnkSubmitRequest) (ambient : RequestAmbient) :
    Fallible HTTPException (NhpJwtValidator K) KnkSubmitResponse := do
  let knkPayload ← mapError (fun exc => ⟨400, exc.message⟩)
    (lift (readKnock pkgs body ambient.parsing))
  let result ← mapError (fun exc => ⟨500, s!"Policy evaluation failed: {exc.message}"⟩)
    (PolicyDecisionEngine.evaluate pkgs.runtime config knkPayload body.ceiMetrics
      ambient.evaluation)
  let requestId := String.ofList (ambient.uuid.toList.take 8)
  if result.decision = .approve then
    return {
      requestId
      decision := "APPROVE"
      sessionId := result.sessionParams.map SessionParams.sessionId
      validatedNodeId := some knkPayload.nhpSbaIntent.targetService }
  else
    return {
      requestId
      decision := "REJECT"
      reason := some ((result.reason.map RejectionReason.value).getD "unknown")
      validatedNodeId := some knkPayload.nhpSbaIntent.targetService }

end Api

end NhpSba
