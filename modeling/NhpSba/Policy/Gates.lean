import NhpSba.Policy.Model.DecisionEngine
import Mathlib.Tactic.Linarith
/-!
# Policy — what the gates decide

A gate judges conditions in order, and gives the reason of the first that
is violated (`Judges`). The gates are evaluated in turn, so the evaluation
approves exactly when all three pass, and otherwise gives the reason of the
first that fails, which the engine hands on unchanged.
-/

namespace NhpSba

namespace Policy

/-- The reason of the first condition that is violated. -/
def firstViolated (conditions : List (Bool × RejectionReason)) : Option RejectionReason :=
  (conditions.find? fun condition => !condition.1).map Prod.snd

theorem firstViolated_append (conditions conditions' : List (Bool × RejectionReason)) :
    firstViolated (conditions ++ conditions') =
      (firstViolated conditions).or (firstViolated conditions') := by
  unfold firstViolated
  rw [List.find?_append, Option.map_or]

theorem firstViolated_eq_none {conditions : List (Bool × RejectionReason)} :
    firstViolated conditions = none ↔ ∀ condition ∈ conditions, condition.1 = true := by
  simp [firstViolated]

/-- A gate judges conditions: it gives the reason of the first violated,
and passes where there is none. -/
structure Judges (name : String) (conditions : List (Bool × RejectionReason))
    (ev : GateEvaluation) : Prop where
  gateName : ev.gateName = name
  rejectionReason : ev.rejectionReason = firstViolated conditions
  passed : ev.passed = (firstViolated conditions).isNone

theorem Judges.passed_iff {name : String} {conditions : List (Bool × RejectionReason)}
    {ev : GateEvaluation} (h : Judges name conditions ev) :
    ev.passed = true ↔ ∀ condition ∈ conditions, condition.1 = true := by
  rw [h.passed, Option.isNone_iff_eq_none, firstViolated_eq_none]

/-- A gate with one threshold judges one condition. -/
theorem judges_threshold (name : String) (reason : RejectionReason) (score threshold : ℚ) :
    Judges name [(decide (threshold ≤ score), reason)]
      (if score < threshold then
        { gateName := name, passed := false, rejectionReason := some reason, score, threshold }
      else { gateName := name, passed := true, rejectionReason := none, score, threshold }) := by
  split
  · rename_i hlow
    have hviolated : firstViolated [(decide (threshold ≤ score), reason)] = some reason := by
      simp [firstViolated, not_le.2 hlow]
    exact ⟨rfl, hviolated.symm, by rw [hviolated]; rfl⟩
  · rename_i hlow
    have hnone : firstViolated [(decide (threshold ≤ score), reason)] = none := by
      simp [firstViolated, not_lt.1 hlow]
    exact ⟨rfl, hnone.symm, by rw [hnone]; rfl⟩

namespace MAMASafetyGate

variable (config : MAMAConfig) (ednsScore : ℚ) (cei : CEIMetrics)

/-- What the funding gate asks. -/
def fundingConditions : List (Bool × RejectionReason) :=
  [(decide (cei.slaPenaltyExposure ≤ config.maxSlaPenaltyExposure), .slaPenaltyExceeded),
    (decide (cei.throughputImpact ≤ config.maxThroughputDeviation), .throughputDeviation),
    (decide (config.minFundingRatio ≤ 1 - max cei.slaPenaltyExposure cei.throughputImpact),
      .fundingExceeded)]

/-- What the safety gate asks. -/
def safetyConditions : List (Bool × RejectionReason) :=
  [(decide (config.minSafetyScore ≤
      6 / 10 * (1 - ednsScore) + 4 / 10 * cei.capabilityEffectivenessIndex), .safetyViolation)]

/-- What the value realization gate asks. -/
def valueConditions : List (Bool × RejectionReason) :=
  [(decide (config.minValueRealization ≤
      cei.capabilityEffectivenessIndex - cei.projectedDemandNotServed), .valueNegative)]

/-- All that the gates ask, in the order in which it is judged. -/
def conditions : List (Bool × RejectionReason) :=
  fundingConditions config cei ++
    (safetyConditions config ednsScore cei ++ valueConditions config cei)

theorem evaluateFundingGate_judges :
    Judges "funding" (fundingConditions config cei) (evaluateFundingGate config cei) := by
  unfold evaluateFundingGate fundingConditions
  dsimp only
  split
  · rename_i hsla
    refine ⟨rfl, ?_, ?_⟩ <;> simp [firstViolated, hsla]
  · rename_i hsla
    rw [not_not] at hsla
    split
    · rename_i htp
      refine ⟨rfl, ?_, ?_⟩ <;> simp [firstViolated, hsla, htp]
    · rename_i htp
      rw [not_not] at htp
      split
      · rename_i hfund
        refine ⟨rfl, ?_, ?_⟩ <;> simp [firstViolated, hsla, htp, not_le.2 hfund]
      · rename_i hfund
        refine ⟨rfl, ?_, ?_⟩ <;> simp [firstViolated, hsla, htp, not_lt.1 hfund]

theorem evaluateSafetyGate_judges :
    Judges "safety" (safetyConditions config ednsScore cei)
      (evaluateSafetyGate config ednsScore cei) :=
  judges_threshold ..

theorem evaluateValueGate_judges :
    Judges "value_realization" (valueConditions config cei) (evaluateValueGate config cei) :=
  judges_threshold ..

variable {config ednsScore cei} {capabilities : List String}

/-- All three gates pass. -/
def AllPass (config : MAMAConfig) (ednsScore : ℚ) (cei : CEIMetrics) : Prop :=
  (evaluateFundingGate config cei).passed = true ∧
    (evaluateSafetyGate config ednsScore cei).passed = true ∧
    (evaluateValueGate config cei).passed = true

instance : Decidable (AllPass config ednsScore cei) :=
  inferInstanceAs (Decidable (_ ∧ _ ∧ _))

theorem evaluateFundingGate_passed :
    (evaluateFundingGate config cei).passed = true ↔
      cei.slaPenaltyExposure ≤ config.maxSlaPenaltyExposure ∧
        cei.throughputImpact ≤ config.maxThroughputDeviation ∧
        config.minFundingRatio ≤ 1 - max cei.slaPenaltyExposure cei.throughputImpact := by
  rw [(evaluateFundingGate_judges config cei).passed_iff]
  simp [fundingConditions]

theorem evaluateSafetyGate_passed :
    (evaluateSafetyGate config ednsScore cei).passed = true ↔
      config.minSafetyScore ≤
        6 / 10 * (1 - ednsScore) + 4 / 10 * cei.capabilityEffectivenessIndex := by
  rw [(evaluateSafetyGate_judges config ednsScore cei).passed_iff]
  simp [safetyConditions]

theorem evaluateValueGate_passed :
    (evaluateValueGate config cei).passed = true ↔
      config.minValueRealization ≤
        cei.capabilityEffectivenessIndex - cei.projectedDemandNotServed := by
  rw [(evaluateValueGate_judges config cei).passed_iff]
  simp [valueConditions]

/-- The reasons a gate may give. -/
def gateReasons : List RejectionReason :=
  [.slaPenaltyExceeded, .throughputDeviation, .fundingExceeded, .safetyViolation, .valueNegative]

/-- A gate that fails gives one of the gates' reasons. -/
def Reasoned (ev : GateEvaluation) : Prop :=
  ev.passed = false → ∃ reason ∈ gateReasons, ev.rejectionReason = some reason

theorem reasoned_of_judges {name : String} {conditions : List (Bool × RejectionReason)}
    {ev : GateEvaluation} (h : Judges name conditions ev)
    (hreasons : ∀ condition ∈ conditions, condition.2 ∈ gateReasons) : Reasoned ev := by
  intro hfail
  rw [h.passed, Option.isNone_eq_false_iff] at hfail
  obtain ⟨reason, hreason⟩ := Option.isSome_iff_exists.1 hfail
  obtain ⟨condition, hcondition, rfl⟩ := Option.map_eq_some_iff.1 hreason
  exact ⟨condition.2, hreasons condition (List.mem_of_find?_eq_some hcondition),
    h.rejectionReason.trans hreason⟩

theorem evaluateFundingGate_reasoned : Reasoned (evaluateFundingGate config cei) :=
  reasoned_of_judges (evaluateFundingGate_judges config cei)
    (by simp [fundingConditions, gateReasons])

theorem evaluateSafetyGate_reasoned : Reasoned (evaluateSafetyGate config ednsScore cei) :=
  reasoned_of_judges (evaluateSafetyGate_judges config ednsScore cei)
    (by simp [safetyConditions, gateReasons])

theorem evaluateValueGate_reasoned : Reasoned (evaluateValueGate config cei) :=
  reasoned_of_judges (evaluateValueGate_judges config cei) (by simp [valueConditions, gateReasons])

/-- **The evaluation approves when all three gates pass, and otherwise
rejects for a gate's reason.** -/
theorem evaluate_cases :
    (AllPass config ednsScore cei ∧
      (evaluate config ednsScore cei capabilities).1 = .approve) ∨
    (¬ AllPass config ednsScore cei ∧
      (evaluate config ednsScore cei capabilities).1 = .reject ∧
      ∃ reason ∈ gateReasons, (evaluate config ednsScore cei capabilities).2.1 = some reason) := by
  unfold evaluate AllPass
  -- the first gate that fails gives the reason
  cases hfund : (evaluateFundingGate config cei).passed with
  | false =>
    have hreason := evaluateFundingGate_reasoned hfund
    simpa [hfund] using hreason
  | true =>
    cases hsafe : (evaluateSafetyGate config ednsScore cei).passed with
    | false =>
      have hreason := evaluateSafetyGate_reasoned hsafe
      simpa [hfund, hsafe] using hreason
    | true =>
      cases hvalue : (evaluateValueGate config cei).passed with
      | false =>
        have hreason := evaluateValueGate_reasoned hvalue
        simpa [hfund, hsafe, hvalue] using hreason
      | true => simp [hfund, hsafe, hvalue]

theorem evaluate_of_allPass (capabilities : List String) (h : AllPass config ednsScore cei) :
    (evaluate config ednsScore cei capabilities).1 = .approve := by
  rcases evaluate_cases with ⟨-, happrove⟩ | ⟨hfail, -⟩
  · exact happrove
  · exact absurd h hfail

theorem evaluate_of_not_allPass (capabilities : List String)
    (h : ¬ AllPass config ednsScore cei) :
    (evaluate config ednsScore cei capabilities).1 = .reject ∧
      ∃ reason ∈ gateReasons, (evaluate config ednsScore cei capabilities).2.1 = some reason := by
  rcases evaluate_cases with ⟨hpass, -⟩ | ⟨-, hreject⟩
  · exact absurd hpass h
  · exact hreject

theorem evaluate_eq_approve_iff (capabilities : List String) :
    (evaluate config ednsScore cei capabilities).1 = .approve ↔ AllPass config ednsScore cei := by
  refine ⟨fun h => ?_, evaluate_of_allPass capabilities⟩
  by_contra hfail
  rw [(evaluate_of_not_allPass capabilities hfail).1] at h
  cases h

end MAMASafetyGate

/-- The engine hands a gate's reason on. -/
theorem mapGateRejection_gateReason {reason : RejectionReason}
    (h : reason ∈ MAMASafetyGate.gateReasons) :
    PolicyDecisionEngine.mapGateRejection (some reason) = some reason := by
  simp only [MAMASafetyGate.gateReasons, List.mem_cons, List.not_mem_nil, or_false] at h
  rcases h with rfl | rfl | rfl | rfl | rfl <;> rfl

end Policy

end NhpSba
