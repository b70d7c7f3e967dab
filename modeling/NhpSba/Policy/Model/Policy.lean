import NhpSba.Python.Value
import Mathlib.Tactic.NormNum
/-!
# Policy — the decision's models

The thresholds of the safety gates, the metrics they are compared with,
and the result of a decision. A threshold and a metric out of range cannot
be built. Scores are exact rationals.
-/

namespace NhpSba

namespace Policy

inductive PolicyDecision
  | approve
  | reject
  deriving DecidableEq

inductive RejectionReason
  | invalidSignature
  | expiredToken
  | invalidAudience
  | missingClaim
  | crossValidationFailed
  | untrustedNode
  | fundingExceeded
  | safetyViolation
  | valueNegative
  | slaPenaltyExceeded
  | throughputDeviation
  | invalidNonce
  | invalidTimestamp
  | schemaValidationFailed
  | clockSkewExceeded
  deriving DecidableEq

namespace RejectionReason

/-- The member's name. -/
def name : RejectionReason → String
  | invalidSignature => "INVALID_SIGNATURE"
  | expiredToken => "EXPIRED_TOKEN"
  | invalidAudience => "INVALID_AUDIENCE"
  | missingClaim => "MISSING_CLAIM"
  | crossValidationFailed => "CROSS_VALIDATION_FAILED"
  | untrustedNode => "UNTRUSTED_NODE"
  | fundingExceeded => "FUNDING_EXCEEDED"
  | safetyViolation => "SAFETY_VIOLATION"
  | valueNegative => "VALUE_NEGATIVE"
  | slaPenaltyExceeded => "SLA_PENALTY_EXCEEDED"
  | throughputDeviation => "THROUGHPUT_DEVIATION"
  | invalidNonce => "INVALID_NONCE"
  | invalidTimestamp => "INVALID_TIMESTAMP"
  | schemaValidationFailed => "SCHEMA_VALIDATION_FAILED"
  | clockSkewExceeded => "CLOCK_SKEW_EXCEEDED"

/-- The member's value. -/
def value : RejectionReason → String
  | invalidSignature => "invalid_signature"
  | expiredToken => "expired_token"
  | invalidAudience => "invalid_audience"
  | missingClaim => "missing_claim"
  | crossValidationFailed => "cross_validation_failed"
  | untrustedNode => "untrusted_node"
  | fundingExceeded => "funding_threshold_exceeded"
  | safetyViolation => "safety_gate_triggered"
  | valueNegative => "negative_value_realization"
  | slaPenaltyExceeded => "sla_penalty_exposure_exceeded"
  | throughputDeviation => "max_throughput_deviation"
  | invalidNonce => "invalid_nonce"
  | invalidTimestamp => "invalid_timestamp"
  | schemaValidationFailed => "schema_validation_failed"
  | clockSkewExceeded => "clock_skew_exceeded"

/-- `f"{reason}"`. -/
def format (reason : RejectionReason) : String := "RejectionReason." ++ reason.name

end RejectionReason

theorem unitRange_zero : UnitRange 0 := by norm_num [UnitRange]

theorem unitRange_one : UnitRange 1 := by norm_num [UnitRange]

/-- The thresholds of the gates. -/
structure MAMAConfig where
  maxSlaPenaltyExposure : ℚ
  maxThroughputDeviation : ℚ
  minFundingRatio : ℚ
  minSafetyScore : ℚ
  minValueRealization : ℚ
  maxSlaPenaltyExposure_mem : UnitRange maxSlaPenaltyExposure
  maxThroughputDeviation_mem : UnitRange maxThroughputDeviation
  minFundingRatio_mem : UnitRange minFundingRatio
  minSafetyScore_mem : UnitRange minSafetyScore
  minValueRealization_mem : UnitRange minValueRealization

/-- `MAMAConfig()`. -/
def MAMAConfig.default : MAMAConfig where
  maxSlaPenaltyExposure := 15 / 100
  maxThroughputDeviation := 20 / 100
  minFundingRatio := 30 / 100
  minSafetyScore := 85 / 100
  minValueRealization := 10 / 100
  maxSlaPenaltyExposure_mem := by norm_num [UnitRange]
  maxThroughputDeviation_mem := by norm_num [UnitRange]
  minFundingRatio_mem := by norm_num [UnitRange]
  minSafetyScore_mem := by norm_num [UnitRange]
  minValueRealization_mem := by norm_num [UnitRange]

/-- The metrics the gates judge. -/
structure CEIMetrics where
  capabilityEffectivenessIndex : ℚ
  projectedDemandNotServed : ℚ
  throughputImpact : ℚ
  slaPenaltyExposure : ℚ
  capabilityEffectivenessIndex_mem : UnitRange capabilityEffectivenessIndex
  projectedDemandNotServed_mem : UnitRange projectedDemandNotServed
  throughputImpact_mem : UnitRange throughputImpact
  slaPenaltyExposure_mem : UnitRange slaPenaltyExposure

/-- The session parameters of an approved request. -/
structure SessionParams where
  sessionId : String
  nodeId : String
  grantedCapabilities : List String
  expiresAt : ℤ
  mamaGateResults : List (String × Bool)
  mamaScores : List (String × ℚ)

structure PolicyResult where
  decision : PolicyDecision
  reason : Option RejectionReason
  rejectionDetail : Option String
  sessionParams : Option SessionParams
  validatedClaims : Option Dict

end Policy

end NhpSba
