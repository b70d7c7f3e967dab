import NhpSba.Policy.Model.Policy
import Mathlib.Order.Lattice
/-!
# Policy — the MAMA safety gates

Three gates, evaluated in turn; the first to fail ends the evaluation.
-/

namespace NhpSba

namespace Policy

inductive GateResult
  | approve
  | reject
  deriving DecidableEq

structure GateEvaluation where
  gateName : String
  passed : Bool
  rejectionReason : Option RejectionReason
  score : ℚ
  threshold : ℚ

namespace MAMASafetyGate

variable (config : MAMAConfig)

/-- `_evaluate_funding_gate`. -/
def evaluateFundingGate (cei : CEIMetrics) : GateEvaluation :=
  let compositeScore := 1 - max cei.slaPenaltyExposure cei.throughputImpact
  if ¬ cei.slaPenaltyExposure ≤ config.maxSlaPenaltyExposure then
    { gateName := "funding", passed := false
      rejectionReason := some .slaPenaltyExceeded
      score := cei.slaPenaltyExposure, threshold := config.maxSlaPenaltyExposure }
  else if ¬ cei.throughputImpact ≤ config.maxThroughputDeviation then
    { gateName := "funding", passed := false
      rejectionReason := some .throughputDeviation
      score := cei.throughputImpact, threshold := config.maxThroughputDeviation }
  else if compositeScore < config.minFundingRatio then
    { gateName := "funding", passed := false
      rejectionReason := some .fundingExceeded
      score := compositeScore, threshold := config.minFundingRatio }
  else
    { gateName := "funding", passed := true
      rejectionReason := none
      score := compositeScore, threshold := config.minFundingRatio }

/-- `_evaluate_safety_gate`. -/
def evaluateSafetyGate (ednsScore : ℚ) (cei : CEIMetrics) : GateEvaluation :=
  let demandSafety := 1 - ednsScore
  let capabilitySafety := cei.capabilityEffectivenessIndex
  let safetyScore := 6 / 10 * demandSafety + 4 / 10 * capabilitySafety
  if safetyScore < config.minSafetyScore then
    { gateName := "safety", passed := false
      rejectionReason := some .safetyViolation
      score := safetyScore, threshold := config.minSafetyScore }
  else
    { gateName := "safety", passed := true
      rejectionReason := none
      score := safetyScore, threshold := config.minSafetyScore }

/-- `_evaluate_value_gate`. -/
def evaluateValueGate (cei : CEIMetrics) : GateEvaluation :=
  let valueRealization := cei.capabilityEffectivenessIndex - cei.projectedDemandNotServed
  if valueRealization < config.minValueRealization then
    { gateName := "value_realization", passed := false
      rejectionReason := some .valueNegative
      score := valueRealization, threshold := config.minValueRealization }
  else
    { gateName := "value_realization", passed := true
      rejectionReason := none
      score := valueRealization, threshold := config.minValueRealization }

/-- `evaluate`. The capabilities are logged only. -/
def evaluate (ednsScore : ℚ) (ceiMetrics : CEIMetrics) (_capabilities : List String) :
    GateResult × Option RejectionReason × List GateEvaluation :=
  let fundingResult := evaluateFundingGate config ceiMetrics
  if !fundingResult.passed then
    (.reject, fundingResult.rejectionReason, [fundingResult])
  else
    let safetyResult := evaluateSafetyGate config ednsScore ceiMetrics
    if !safetyResult.passed then
      (.reject, safetyResult.rejectionReason, [fundingResult, safetyResult])
    else
      let valueResult := evaluateValueGate config ceiMetrics
      if !valueResult.passed then
        (.reject, valueResult.rejectionReason, [fundingResult, safetyResult, valueResult])
      else (.approve, none, [fundingResult, safetyResult, valueResult])

end MAMASafetyGate

end Policy

end NhpSba
