import Mathlib.Algebra.Order.Field.Rat
import Mathlib.Order.Lattice
/-!
# Policy — the EDNS score

The score of expected demand not served, and its risk classes. The inputs
are not checked: any of them may be negative or above 1. Scores are exact
rationals.
-/

namespace NhpSba

namespace Policy

structure EDNSInput where
  currentCapacityUtilization : ℚ
  projectedDemandIncrease : ℚ
  slaBreachRisk : ℚ
  historicalSlaCompliance : ℚ
  networkCongestionIndex : ℚ

inductive RiskClass
  | low
  | medium
  | high
  | critical
  deriving DecidableEq

/-- The text that stands for a class. -/
def RiskClass.value : RiskClass → String
  | low => "low"
  | medium => "medium"
  | high => "high"
  | critical => "critical"

namespace EDNSCalculator

/-- The components of a score, each capped at 1. -/
structure Components where
  capacityPressure : ℚ
  demandSurge : ℚ
  slaRisk : ℚ
  complianceDeficit : ℚ
  congestionFactor : ℚ

/-- `WEIGHTS`. -/
def weights : Components where
  capacityPressure := 35 / 100
  demandSurge := 25 / 100
  slaRisk := 20 / 100
  complianceDeficit := 10 / 100
  congestionFactor := 10 / 100

def components (input : EDNSInput) : Components where
  capacityPressure := min 1 (input.currentCapacityUtilization + input.projectedDemandIncrease)
  demandSurge := min 1 input.projectedDemandIncrease
  slaRisk := min 1 input.slaBreachRisk
  complianceDeficit := min 1 (1 - input.historicalSlaCompliance)
  congestionFactor := min 1 input.networkCongestionIndex

/-- The score before the clamp. -/
def weightedSum (c : Components) : ℚ :=
  weights.capacityPressure * c.capacityPressure + weights.demandSurge * c.demandSurge +
    weights.slaRisk * c.slaRisk + weights.complianceDeficit * c.complianceDeficit +
    weights.congestionFactor * c.congestionFactor

/-- `compute`. -/
def compute (inputData : EDNSInput) : ℚ := max 0 (min 1 (weightedSum (components inputData)))

/-- `classify_risk`. -/
def classifyRisk (ednsScore : ℚ) : RiskClass :=
  if ednsScore < 25 / 100 then .low
  else if ednsScore < 50 / 100 then .medium
  else if ednsScore < 75 / 100 then .high
  else .critical

end EDNSCalculator

end Policy

end NhpSba
