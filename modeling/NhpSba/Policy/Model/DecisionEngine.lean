import NhpSba.Knock.Model.Validator
import NhpSba.Policy.Model.MamaGate
/-!
# Policy — the decision engine

`PolicyDecisionEngine.evaluate`: validate the knock, ask the gates, and
grant a session. Only a `JwtValidationError` becomes a rejection; any other
exception of the validator escapes. What the request draws from the clock
and from `uuid4` comes with it.
-/

namespace NhpSba

namespace Policy

open Knock Fallible

/-- What one request draws from outside: the validator's clock readings,
the session's, and its id. -/
structure Ambient where
  clock : ClockReadings
  now : ℚ
  sessionId : String

/-- `round(x, 4)`: to the nearest ten-thousandth, and to the even one of
two that are as near. -/
def pyRound4 (x : ℚ) : ℚ := Double.roundEven (x * 10000) / 10000

namespace PolicyDecisionEngine

/-- `_map_jwt_error`. -/
def mapJwtError (reason : String) : RejectionReason :=
  let mapping : List (String × RejectionReason) :=
    [("invalid_signature", .invalidSignature),
      ("expired_token", .expiredToken),
      ("invalid_audience", .invalidAudience),
      ("missing_claim", .missingClaim),
      ("cross_validation_failed", .crossValidationFailed),
      ("untrusted_node", .untrustedNode),
      ("invalid_nonce", .invalidNonce),
      ("invalid_public_key", .untrustedNode),
      ("invalid_issuer", .crossValidationFailed),
      ("clock_skew_exceeded", .clockSkewExceeded)]
  (mapping.lookup reason).getD .invalidSignature

/-- `_map_gate_rejection`. -/
def mapGateRejection : Option RejectionReason → Option RejectionReason
  | none => none
  | some reason =>
    let mapping : List (String × RejectionReason) :=
      [("funding_threshold_exceeded", .fundingExceeded),
        ("safety_gate_triggered", .safetyViolation),
        ("negative_value_realization", .valueNegative),
        ("sla_penalty_exposure_exceeded", .slaPenaltyExceeded),
        ("max_throughput_deviation", .throughputDeviation)]
    some ((mapping.lookup reason.value).getD .safetyViolation)

/-- `f"{reason}"` of an optional reason. -/
def formatReason : Option RejectionReason → String
  | none => "None"
  | some reason => reason.format

/-- `_generate_session_params`, which takes the validated claims and reads
none of them. -/
def generateSessionParams (payload : NhpKnkPayload) (_claims : Dict)
    (gateEvaluations : List GateEvaluation) (ambient : Ambient) : SessionParams where
  sessionId := ambient.sessionId
  nodeId := payload.nhpSbaIntent.targetService
  grantedCapabilities := [payload.nhpSbaIntent.actionClass]
  expiresAt := truncate ambient.now + 3600
  mamaGateResults := gateEvaluations.map fun ev => (ev.gateName, ev.passed)
  mamaScores := gateEvaluations.map fun ev => (ev.gateName, pyRound4 ev.score)

/-- The exceptions the engine's handler names, with what it reads of them. -/
def jwtValidationError? : PyException → Option (String × String)
  | .jwtValidationError message reason => some (message, reason)
  | _ => none

variable {K J : Type} (R : Runtime K J) (config : MAMAConfig)

/-- `evaluate`. -/
def evaluate (payload : NhpKnkPayload) (ceiMetrics : CEIMetrics) (ambient : Ambient) :
    Fallible PyException (NhpJwtValidator K) PolicyResult := do
  match ← attempt jwtValidationError? (NhpJwtValidator.validate R payload ambient.clock) with
  | .error (message, rejectionReason) =>
    return { decision := .reject
             reason := some (mapJwtError rejectionReason)
             rejectionDetail := some message
             sessionParams := none
             validatedClaims := none }
  | .ok validatedClaims =>
    -- the gates judge the cleartext context, not the claims
    let (gateResult, gateReason, gateEvaluations) :=
      MAMASafetyGate.evaluate config payload.nhpSbaContext.currentEdns ceiMetrics
        [payload.nhpSbaIntent.actionClass]
    if gateResult = .reject then
      return { decision := .reject
               reason := mapGateRejection gateReason
               rejectionDetail := some s!"MAMA gate rejection: {formatReason gateReason}"
               sessionParams := none
               validatedClaims := none }
    else
      return { decision := .approve
               reason := none
               rejectionDetail := none
               sessionParams :=
                 some (generateSessionParams payload validatedClaims gateEvaluations ambient)
               validatedClaims := some validatedClaims }

end PolicyDecisionEngine

end Policy

end NhpSba
