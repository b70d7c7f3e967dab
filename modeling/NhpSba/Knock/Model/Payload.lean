import NhpSba.Knock.Model.Runtime
import NhpSba.Python.Base64
/-!
# Knock — the NHP-KNK payload

The payload as the server's models declare it, each with the constraints
of its fields, so that a payload that violates one cannot be built; and the
checks `NhpKnkParser` makes on a payload it has parsed.
-/

namespace NhpSba

namespace Knock

/-- The action classes an intent may name. -/
def actionClasses : List String := ["monitor", "remediate", "provision", "optimize"]

structure ImpactScope where
  maxSubscribers : ℤ
  maxEdnsDelta : ℚ
  domain : String
  maxSubscribers_nonneg : 0 ≤ maxSubscribers
  maxEdnsDelta_mem : 0 ≤ maxEdnsDelta ∧ maxEdnsDelta ≤ 1
  domain_length : 1 ≤ domain.length

structure NhpSbaIntent where
  actionClass : String
  targetService : String
  impactScope : ImpactScope
  temporalBounds : Dict
  actionClass_mem : actionClass ∈ actionClasses
  targetService_length : 1 ≤ targetService.length ∧ targetService.length ≤ 256

structure NhpSbaContext where
  currentEdns : ℚ
  currentCei : ℤ
  activeAlarms : ℤ
  ongoingRemediations : ℤ
  agentConfidenceScore : ℚ
  currentEdns_mem : 0 ≤ currentEdns ∧ currentEdns ≤ 1
  currentCei_mem : 0 ≤ currentCei ∧ currentCei ≤ 100
  activeAlarms_nonneg : 0 ≤ activeAlarms
  ongoingRemediations_nonneg : 0 ≤ ongoingRemediations
  agentConfidenceScore_mem : 0 ≤ agentConfidenceScore ∧ agentConfidenceScore ≤ 1

/-- The canonical NHP-KNK payload. The intent and the context are the
cleartext copies; the signed ones are in the claims of `jws`. -/
structure NhpKnkPayload where
  version : String
  nodeId : String
  timestamp : ℤ
  nonce : String
  publicKey : String
  jws : String
  nhpSbaIntent : NhpSbaIntent
  nhpSbaContext : NhpSbaContext
  nhpSbaSatFragment : String
  version_eq : version = "1.0"
  nodeId_length : 1 ≤ nodeId.length ∧ nodeId.length ≤ 256
  timestamp_pos : 0 < timestamp
  nonce_length : 16 ≤ nonce.length ∧ nonce.length ≤ 64
  publicKey_length : 1 ≤ publicKey.length
  jws_length : 1 ≤ jws.length
  nhpSbaSatFragment_length : 1 ≤ nhpSbaSatFragment.length

namespace NhpKnkParser

variable {K J : Type} (R : Runtime K J)

/-- `validate_schema`, whose public-key check also refuses what does not
decode. -/
def validateSchema (payload : NhpKnkPayload) : Except PyException Unit :=
  let intent := payload.nhpSbaIntent
  let context := payload.nhpSbaContext
  let edns := R.formatValue (.float (.finite context.currentEdns))
  let confidence := R.formatValue (.float (.finite context.agentConfidenceScore))
  if payload.version ≠ "1.0" then
    .error (.knkParseError s!"Unsupported version: {payload.version}. Expected 1.0" "version")
  else if intent.actionClass ∉ actionClasses then
    .error (.knkParseError s!"Invalid action class: {intent.actionClass}" "action_class")
  else if ¬ (0 ≤ context.currentEdns ∧ context.currentEdns ≤ 1) then
    .error (.knkParseError
      s!"EDNS score out of range: {edns}. Must be 0.0-1.0" "current_edns")
  else if ¬ (0 ≤ context.agentConfidenceScore ∧ context.agentConfidenceScore ≤ 1) then
    .error (.knkParseError
      s!"Confidence score out of range: {confidence}. Must be 0.0-1.0"
      "agent_confidence_score")
  else
    match Base64.b64decode payload.publicKey.toList with
    | .error exc => .error (.knkParseError s!"Public key is not valid base64: {exc}" "public_key")
    | .ok bytes =>
      if bytes.length ≠ 32 then
        .error (.knkParseError
          s!"Public key must decode to 32 bytes, got {bytes.length}" "public_key")
      else .ok ()

/-- `validate_nonce`. -/
def validateNonce (payload : NhpKnkPayload) : Except PyException Unit :=
  match Base64.b64decode payload.nonce.toList with
  | .error exc => .error (.knkParseError s!"Nonce is not valid base64: {exc}" "nonce")
  | .ok bytes =>
    if bytes.length < 16 then
      .error (.knkParseError
        s!"Nonce too short: {bytes.length} bytes. Minimum 16 bytes required" "nonce")
    else if bytes.all (· = 0) then
      .error (.knkParseError "Nonce has zero entropy (all zeros)" "nonce")
    else .ok ()

/-- The least integers too large to convert to a `float`. -/
def floatOverflow : ℤ := 2 ^ 1024 - 2 ^ 970

/-- `validate_timestamp` at a clock reading. The drift is computed first,
and converting the timestamp for it fails beyond the range of a `float`. -/
def validateTimestamp (payload : NhpKnkPayload) (now : ℚ) : Except PyException Unit :=
  if floatOverflow ≤ payload.timestamp then
    .error (.overflowError "int too large to convert to float")
  else
    let drift := |now - payload.timestamp|
    if payload.timestamp > now + 300 then
      .error (.knkParseError ("Timestamp is too far in the future. " ++
        s!"timestamp={payload.timestamp}, now={R.formatTime now}, max_drift=300s") "timestamp")
    else if drift > 300 then
      .error (.knkParseError
        s!"Timestamp drift too large: {R.formatTime drift}s. Max allowed: 300s" "timestamp")
    else .ok ()

/-- The parser accepts a payload it has parsed: `full_validate` after
`parse`. -/
def Accepts (payload : NhpKnkPayload) (now : ℚ) : Prop :=
  validateSchema R payload = .ok () ∧ validateNonce payload = .ok () ∧
    validateTimestamp R payload now = .ok ()

end NhpKnkParser

end Knock

end NhpSba
