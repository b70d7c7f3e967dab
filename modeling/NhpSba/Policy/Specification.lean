import NhpSba.Common.Stages
import NhpSba.Policy.Decision
/-!
# Policy — the specification of the gates

What the three gates ask is five conditions, judged in order: three by the
funding gate, one by each of the others. An evaluation approves where all
five hold, and otherwise rejects for the first that is violated. The gates
are stages, so the list of evaluations is the executed prefix of theirs
(`evaluate_evaluations`), and an approved session records all three.
-/

namespace NhpSba

namespace Policy

open Knock Fallible Stages

namespace MAMASafetyGate

variable (config : MAMAConfig) (ednsScore : ℚ) (cei : CEIMetrics) (capabilities : List String)

/-- The evaluations of the three gates. -/
def gates : List GateEvaluation :=
  [evaluateFundingGate config cei, evaluateSafetyGate config ednsScore cei,
    evaluateValueGate config cei]

theorem gateName_gates :
    (gates config ednsScore cei).map GateEvaluation.gateName =
      ["funding", "safety", "value_realization"] := by
  rw [gates, List.map_cons, List.map_cons, List.map_cons, List.map_nil,
    (evaluateFundingGate_judges config cei).gateName,
    (evaluateSafetyGate_judges config ednsScore cei).gateName,
    (evaluateValueGate_judges config cei).gateName]

/-- The evaluation is a run of the gates as stages. -/
theorem evaluate_evaluations :
    (evaluate config ednsScore cei capabilities).2.2 =
      executed GateEvaluation.passed (gates config ednsScore cei) := by
  unfold evaluate gates executed executed executed executed
  cases hfund : (evaluateFundingGate config cei).passed with
  | false => simp [hfund]
  | true =>
    cases hsafe : (evaluateSafetyGate config ednsScore cei).passed with
    | false => simp [hfund, hsafe]
    | true =>
      cases hvalue : (evaluateValueGate config cei).passed with
      | false => simp [hfund, hsafe, hvalue]
      | true => simp [hfund, hsafe, hvalue]

/-- The reason is that of the first condition violated. -/
theorem evaluate_reason :
    (evaluate config ednsScore cei capabilities).2.1 =
      firstViolated (conditions config ednsScore cei) := by
  have hfund := evaluateFundingGate_judges config cei
  have hsafe := evaluateSafetyGate_judges config ednsScore cei
  have hvalue := evaluateValueGate_judges config cei
  rw [conditions, firstViolated_append, firstViolated_append]
  unfold evaluate
  simp only [hfund.passed, hsafe.passed, hvalue.passed, hfund.rejectionReason,
    hsafe.rejectionReason, hvalue.rejectionReason]
  -- a gate that passes has no condition violated, and leaves it to the next
  cases firstViolated (fundingConditions config cei) with
  | some reason => rfl
  | none =>
    cases firstViolated (safetyConditions config ednsScore cei) with
    | some reason => rfl
    | none => cases firstViolated (valueConditions config cei) <;> rfl

variable {config ednsScore cei}

theorem allPass_iff_gates :
    AllPass config ednsScore cei ↔ ∀ ev ∈ gates config ednsScore cei, ev.passed = true := by
  simp only [AllPass, gates, List.forall_mem_cons, List.not_mem_nil, false_implies, implies_true,
    and_true]

/-- **What is approved**: what meets all five conditions. -/
theorem evaluate_approve_iff :
    (evaluate config ednsScore cei capabilities).1 = .approve ↔
      cei.slaPenaltyExposure ≤ config.maxSlaPenaltyExposure ∧
        cei.throughputImpact ≤ config.maxThroughputDeviation ∧
        config.minFundingRatio ≤ 1 - max cei.slaPenaltyExposure cei.throughputImpact ∧
        config.minSafetyScore ≤
          6 / 10 * (1 - ednsScore) + 4 / 10 * cei.capabilityEffectivenessIndex ∧
        config.minValueRealization ≤
          cei.capabilityEffectivenessIndex - cei.projectedDemandNotServed := by
  rw [evaluate_eq_approve_iff, AllPass, evaluateFundingGate_passed, evaluateSafetyGate_passed,
    evaluateValueGate_passed, and_assoc, and_assoc]

/-- What an evaluation leaves behind: the gates that were executed, of
which only the last may have failed. -/
structure Recorded (config : MAMAConfig) (ednsScore : ℚ) (cei : CEIMetrics) (result : GateResult)
    (evaluations : List GateEvaluation) : Prop where
  executed : evaluations <+: gates config ednsScore cei
  names : evaluations.map GateEvaluation.gateName <+: ["funding", "safety", "value_realization"]
  passed : ∀ ev ∈ evaluations.dropLast, ev.passed = true
  last : ∃ ev, evaluations.getLast? = some ev ∧ (ev.passed = true ↔ result = .approve)

theorem evaluate_recorded :
    Recorded config ednsScore cei (evaluate config ednsScore cei capabilities).1
      (evaluate config ednsScore cei capabilities).2.2 := by
  rw [evaluate_evaluations]
  have hrun := executed_prefix GateEvaluation.passed (gates config ednsScore cei)
  refine ⟨hrun, ?_, fun ev hev => passed_of_mem_dropLast hev, ?_⟩
  · rw [← gateName_gates config ednsScore cei]
    exact hrun.map _
  · have hgates : gates config ednsScore cei ≠ [] := List.cons_ne_nil _ _
    obtain ⟨ev, hev, hpassed⟩ := exists_getLast?_executed GateEvaluation.passed hgates
    refine ⟨ev, hev, ?_⟩
    rw [hpassed, evaluate_eq_approve_iff, allPass_iff_gates]

end MAMASafetyGate

/-! ## The engine's record -/

namespace PolicyDecisionEngine

open MAMASafetyGate

variable {K J : Type} {R : Runtime K J} {config : MAMAConfig} {payload : NhpKnkPayload}
  {cei : CEIMetrics} {ambient : Ambient} {v : NhpJwtValidator K} {result : PolicyResult}

/-- What the engine approves, the validator accepted and all gates passed. -/
theorem exists_judged_of_approve
    (h : (call (evaluate R config payload cei ambient) v).1 = .ok result)
    (happrove : result.decision = .approve) :
    ∃ claims, result = judged config payload cei ambient claims ∧
      AllPass config payload.nhpSbaContext.currentEdns cei := by
  rw [call_evaluate] at h
  cases hvalid : (call (NhpJwtValidator.validate R payload ambient.clock) v).1 with
  | ok claims =>
    rw [hvalid] at h
    obtain rfl := Except.ok.inj h
    refine ⟨claims, rfl, ?_⟩
    by_contra hfail
    rw [(judged_of_not_allPass ambient claims hfail).1] at happrove
    cases happrove
  | error exc =>
    rw [hvalid] at h
    cases exc with
    | jwtValidationError message reason =>
      obtain rfl := Except.ok.inj h
      cases happrove
    | _ => cases h

/-- The session of a knock whose gates pass records all three. -/
theorem sessionParams_of_allPass (claims : Dict)
    (h : AllPass config payload.nhpSbaContext.currentEdns cei) :
    (judged config payload cei ambient claims).sessionParams =
      some (generateSessionParams payload claims
        (gates config payload.nhpSbaContext.currentEdns cei) ambient) := by
  have happrove := evaluate_of_allPass [payload.nhpSbaIntent.actionClass] h
  have hgates := evaluate_evaluations config payload.nhpSbaContext.currentEdns cei
    [payload.nhpSbaIntent.actionClass]
  rw [executed_eq_self (allPass_iff_gates.1 h)] at hgates
  unfold judged
  simp only [happrove, hgates]
  rfl

/-- An approved session's gate results are the three gates, all passed. -/
theorem mamaGateResults_of_approve
    (h : (call (evaluate R config payload cei ambient) v).1 = .ok result)
    (happrove : result.decision = .approve) :
    ∃ params, result.sessionParams = some params ∧
      params.mamaGateResults =
        [("funding", true), ("safety", true), ("value_realization", true)] := by
  obtain ⟨claims, rfl, hpass⟩ := exists_judged_of_approve h happrove
  refine ⟨_, sessionParams_of_allPass claims hpass, ?_⟩
  have hpassed := allPass_iff_gates.1 hpass
  have hnames := gateName_gates config payload.nhpSbaContext.currentEdns cei
  calc (gates config payload.nhpSbaContext.currentEdns cei).map (fun ev => (ev.gateName, ev.passed))
      = (gates config payload.nhpSbaContext.currentEdns cei).map fun ev => (ev.gateName, true) :=
        List.map_congr_left fun ev hev => by rw [hpassed ev hev]
    _ = ((gates config payload.nhpSbaContext.currentEdns cei).map GateEvaluation.gateName).map
          fun name => (name, true) := by rw [List.map_map]; rfl
    _ = [("funding", true), ("safety", true), ("value_realization", true)] := by rw [hnames]; rfl

end PolicyDecisionEngine

/-- **The specification of the gates.** An evaluation approves exactly what
meets the five conditions, and gives the reason of the first violated. It
leaves the executed prefix of the gates' evaluations, and a session the
engine approves has all three recorded as passed. -/
theorem gates_specification (config : MAMAConfig) (ednsScore : ℚ) (cei : CEIMetrics)
    (capabilities : List String) :
    ((MAMASafetyGate.evaluate config ednsScore cei capabilities).1 = .approve ↔
      cei.slaPenaltyExposure ≤ config.maxSlaPenaltyExposure ∧
        cei.throughputImpact ≤ config.maxThroughputDeviation ∧
        config.minFundingRatio ≤ 1 - max cei.slaPenaltyExposure cei.throughputImpact ∧
        config.minSafetyScore ≤
          6 / 10 * (1 - ednsScore) + 4 / 10 * cei.capabilityEffectivenessIndex ∧
        config.minValueRealization ≤
          cei.capabilityEffectivenessIndex - cei.projectedDemandNotServed) ∧
    (MAMASafetyGate.evaluate config ednsScore cei capabilities).2.1 =
      firstViolated (MAMASafetyGate.conditions config ednsScore cei) ∧
    MAMASafetyGate.Recorded config ednsScore cei
      (MAMASafetyGate.evaluate config ednsScore cei capabilities).1
      (MAMASafetyGate.evaluate config ednsScore cei capabilities).2.2 ∧
    ∀ {K J : Type} (R : Runtime K J) (v : NhpJwtValidator K) (payload : NhpKnkPayload)
      (ambient : Ambient) (result : PolicyResult),
      (call (PolicyDecisionEngine.evaluate R config payload cei ambient) v).1 = .ok result →
      result.decision = .approve → ∃ params, result.sessionParams = some params ∧
        params.mamaGateResults =
          [("funding", true), ("safety", true), ("value_realization", true)] :=
  ⟨MAMASafetyGate.evaluate_approve_iff capabilities,
    MAMASafetyGate.evaluate_reason config ednsScore cei capabilities,
    MAMASafetyGate.evaluate_recorded capabilities,
    fun _ _ _ _ _ h happrove => PolicyDecisionEngine.mamaGateResults_of_approve h happrove⟩

/-- Metrics at the thresholds of the default configuration. -/
def thresholdMetrics : CEIMetrics where
  capabilityEffectivenessIndex := 1
  projectedDemandNotServed := 90 / 100
  throughputImpact := MAMAConfig.default.maxThroughputDeviation
  slaPenaltyExposure := MAMAConfig.default.maxSlaPenaltyExposure
  capabilityEffectivenessIndex_mem := unitRange_one
  projectedDemandNotServed_mem := by norm_num [UnitRange]
  throughputImpact_mem := MAMAConfig.default.maxThroughputDeviation_mem
  slaPenaltyExposure_mem := MAMAConfig.default.maxSlaPenaltyExposure_mem

/-- What meets every threshold exactly is approved. -/
example : (MAMASafetyGate.evaluate
    { MAMAConfig.default with
      minFundingRatio := 80 / 100
      minFundingRatio_mem := by norm_num [UnitRange] }
    (25 / 100) thresholdMetrics []).1 = .approve := by
  rw [MAMASafetyGate.evaluate_approve_iff]
  norm_num [MAMAConfig.default, thresholdMetrics]

end Policy

end NhpSba
