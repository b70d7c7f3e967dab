import NhpSba.Policy.Model.EdnsMetrics
import NhpSba.Policy.Model.Policy
import Mathlib.Tactic.Linarith
/-!
# Policy — the EDNS score is bounded and monotone

Inputs are ordered by what they say of the network, a worse one above a
better one. Every component of the score is monotone in that order, so the
score and the risk class are (`compute_bounded_monotone`). The weights add
up to 1, so the clamp acts from below only, and on inputs out of range only.
-/

namespace NhpSba

namespace Policy

/-- `x` says no worse of the network than `y`: all that strains it is no
larger, and its compliance in the past no smaller. -/
structure EDNSInput.NoWorse (x y : EDNSInput) : Prop where
  currentCapacityUtilization : x.currentCapacityUtilization ≤ y.currentCapacityUtilization
  projectedDemandIncrease : x.projectedDemandIncrease ≤ y.projectedDemandIncrease
  slaBreachRisk : x.slaBreachRisk ≤ y.slaBreachRisk
  historicalSlaCompliance : y.historicalSlaCompliance ≤ x.historicalSlaCompliance
  networkCongestionIndex : x.networkCongestionIndex ≤ y.networkCongestionIndex

/-- A worse input is above a better one. -/
instance : Preorder EDNSInput where
  le := EDNSInput.NoWorse
  le_refl x := ⟨le_rfl, le_rfl, le_rfl, le_rfl, le_rfl⟩
  le_trans x y z hxy hyz :=
    ⟨le_trans hxy.1 hyz.1, le_trans hxy.2 hyz.2, le_trans hxy.3 hyz.3, le_trans hyz.4 hxy.4,
      le_trans hxy.5 hyz.5⟩

/-- All inputs are in range. -/
structure EDNSInput.InRange (x : EDNSInput) : Prop where
  currentCapacityUtilization : UnitRange x.currentCapacityUtilization
  projectedDemandIncrease : UnitRange x.projectedDemandIncrease
  slaBreachRisk : UnitRange x.slaBreachRisk
  historicalSlaCompliance : UnitRange x.historicalSlaCompliance
  networkCongestionIndex : UnitRange x.networkCongestionIndex

namespace RiskClass

/-- The place of a class among the four. -/
def rank : RiskClass → ℕ
  | low => 0
  | medium => 1
  | high => 2
  | critical => 3

theorem rank_injective : Function.Injective rank := by
  intro c d h
  cases c <;> cases d <;> first | rfl | cases h

/-- The classes in the order low, medium, high, critical. -/
instance : LinearOrder RiskClass := LinearOrder.lift' rank rank_injective

theorem low_le (c : RiskClass) : low ≤ c := Nat.zero_le (rank c)

end RiskClass

namespace EDNSCalculator

/-! ## Monotone -/

/-- A smaller input makes every component smaller. -/
structure Components.Le (c d : Components) : Prop where
  capacityPressure : c.capacityPressure ≤ d.capacityPressure
  demandSurge : c.demandSurge ≤ d.demandSurge
  slaRisk : c.slaRisk ≤ d.slaRisk
  complianceDeficit : c.complianceDeficit ≤ d.complianceDeficit
  congestionFactor : c.congestionFactor ≤ d.congestionFactor

theorem components_mono {x y : EDNSInput} (h : x ≤ y) : (components x).Le (components y) where
  capacityPressure := min_le_min le_rfl
    (add_le_add h.currentCapacityUtilization h.projectedDemandIncrease)
  demandSurge := min_le_min le_rfl h.projectedDemandIncrease
  slaRisk := min_le_min le_rfl h.slaBreachRisk
  complianceDeficit := min_le_min le_rfl (sub_le_sub_left h.historicalSlaCompliance 1)
  congestionFactor := min_le_min le_rfl h.networkCongestionIndex

/-- No weight is negative. -/
theorem weightedSum_mono {c d : Components} (h : c.Le d) : weightedSum c ≤ weightedSum d := by
  obtain ⟨hcapacity, hdemand, hsla, hcompliance, hcongestion⟩ := h
  simp only [weightedSum, weights]
  linarith

theorem compute_monotone : Monotone compute := fun _ _ h =>
  max_le_max le_rfl (min_le_min le_rfl (weightedSum_mono (components_mono h)))

theorem classifyRisk_monotone : Monotone classifyRisk := by
  intro p q hpq
  unfold classifyRisk
  -- what the smaller score is not below, the larger is not either
  by_cases hlow : p < 25 / 100
  · rw [if_pos hlow]
    exact RiskClass.low_le _
  · rw [if_neg hlow, if_neg fun h => hlow (lt_of_le_of_lt hpq h)]
    by_cases hmedium : p < 50 / 100
    · rw [if_pos hmedium]
      split_ifs <;> decide
    · rw [if_neg hmedium, if_neg fun h => hmedium (lt_of_le_of_lt hpq h)]
      by_cases hhigh : p < 75 / 100
      · rw [if_pos hhigh]
        split_ifs <;> decide
      · rw [if_neg hhigh, if_neg fun h => hhigh (lt_of_le_of_lt hpq h)]

/-! ## Bounded -/

theorem compute_unitRange (x : EDNSInput) : UnitRange (compute x) :=
  ⟨le_max_left _ _, max_le zero_le_one (min_le_left _ _)⟩

/-- The weights add up to 1, so the sum is within the cap of its
components. -/
theorem weightedSum_components_le_one (x : EDNSInput) : weightedSum (components x) ≤ 1 := by
  have hcapacity : (components x).capacityPressure ≤ 1 := min_le_left _ _
  have hdemand : (components x).demandSurge ≤ 1 := min_le_left _ _
  have hsla : (components x).slaRisk ≤ 1 := min_le_left _ _
  have hcompliance : (components x).complianceDeficit ≤ 1 := min_le_left _ _
  have hcongestion : (components x).congestionFactor ≤ 1 := min_le_left _ _
  simp only [weightedSum, weights]
  linarith

theorem weightedSum_components_nonneg {x : EDNSInput} (h : x.InRange) :
    0 ≤ weightedSum (components x) := by
  have hcapacity : 0 ≤ (components x).capacityPressure :=
    le_min zero_le_one
      (add_nonneg h.currentCapacityUtilization.1 h.projectedDemandIncrease.1)
  have hdemand : 0 ≤ (components x).demandSurge := le_min zero_le_one h.projectedDemandIncrease.1
  have hsla : 0 ≤ (components x).slaRisk := le_min zero_le_one h.slaBreachRisk.1
  have hcompliance : 0 ≤ (components x).complianceDeficit :=
    le_min zero_le_one (sub_nonneg.2 h.historicalSlaCompliance.2)
  have hcongestion : 0 ≤ (components x).congestionFactor :=
    le_min zero_le_one h.networkCongestionIndex.1
  simp only [weightedSum, weights]
  linarith

/-- From above the clamp acts on no input. -/
theorem compute_eq_max (x : EDNSInput) : compute x = max 0 (weightedSum (components x)) := by
  rw [compute, min_eq_right (weightedSum_components_le_one x)]

/-- On inputs in range the clamp is inactive. -/
theorem compute_eq_weightedSum {x : EDNSInput} (h : x.InRange) :
    compute x = weightedSum (components x) := by
  rw [compute_eq_max, max_eq_right (weightedSum_components_nonneg h)]

/-- Out of range it may act. -/
example : let x : EDNSInput := ⟨-1, 0, 0, 1, 0⟩
    weightedSum (components x) < 0 ∧ compute x = 0 := by
  norm_num [compute, weightedSum, components, weights]

/-- **The EDNS is a bounded monotone score.** On all inputs it is in range,
and it and its class never fall as the input gets worse. On inputs in range
it is the weighted sum of the capped components. -/
theorem compute_bounded_monotone :
    (∀ x, 0 ≤ compute x ∧ compute x ≤ 1) ∧ Monotone compute ∧
      (∀ x : EDNSInput, x.InRange → compute x =
        35 / 100 * min 1 (x.currentCapacityUtilization + x.projectedDemandIncrease) +
        25 / 100 * min 1 x.projectedDemandIncrease +
        20 / 100 * min 1 x.slaBreachRisk +
        10 / 100 * min 1 (1 - x.historicalSlaCompliance) +
        10 / 100 * min 1 x.networkCongestionIndex) ∧
      Monotone fun x => classifyRisk (compute x) :=
  ⟨compute_unitRange, compute_monotone, fun _ h => compute_eq_weightedSum h,
    classifyRisk_monotone.comp compute_monotone⟩

/-- A network at work. -/
def busy : EDNSInput where
  currentCapacityUtilization := 1 / 2
  projectedDemandIncrease := 1 / 4
  slaBreachRisk := 1 / 4
  historicalSlaCompliance := 1 / 2
  networkCongestionIndex := 1 / 5

theorem busy_inRange : busy.InRange := by
  constructor <;> norm_num [busy, UnitRange]

/-- It scores 0.445, which is a medium risk. -/
theorem compute_bounded_monotone_busy :
    compute busy = 445 / 1000 ∧ classifyRisk (compute busy) = .medium := by
  obtain ⟨-, -, hsum, -⟩ := compute_bounded_monotone
  have hscore : compute busy = 445 / 1000 := by
    rw [hsum busy busy_inRange]
    norm_num [busy]
  refine ⟨hscore, ?_⟩
  rw [hscore]
  norm_num [classifyRisk]

end EDNSCalculator

end Policy

end NhpSba
