import NhpSba.Policy.Specification
/-!
# Policy — the thresholds as controls

A decision is monotone in the state of the network and in the policy: no
worsening of the one and no tightening of the other opens a gate
(`evaluate_monotone`). One threshold may control nothing: the maxima bound
the composite score that is compared with the funding ratio, which is read
only above what they leave (`minFundingRatio_live_iff`).
-/

namespace NhpSba

namespace Policy

open Knock Fallible Stages MAMASafetyGate

/-! ## Monotone -/

/-- The second configuration is no tighter than the first: its maxima are
no smaller, its minima no larger. -/
structure NoTighter (config config' : MAMAConfig) : Prop where
  maxSlaPenaltyExposure : config.maxSlaPenaltyExposure ≤ config'.maxSlaPenaltyExposure
  maxThroughputDeviation : config.maxThroughputDeviation ≤ config'.maxThroughputDeviation
  minFundingRatio : config'.minFundingRatio ≤ config.minFundingRatio
  minSafetyScore : config'.minSafetyScore ≤ config.minSafetyScore
  minValueRealization : config'.minValueRealization ≤ config.minValueRealization

/-- The second state of the network is no worse than the first: all it
risks is no larger, and its capabilities no less effective. -/
structure NoWorse (ednsScore : ℚ) (cei : CEIMetrics) (ednsScore' : ℚ) (cei' : CEIMetrics) :
    Prop where
  ednsScore : ednsScore' ≤ ednsScore
  slaPenaltyExposure : cei'.slaPenaltyExposure ≤ cei.slaPenaltyExposure
  throughputImpact : cei'.throughputImpact ≤ cei.throughputImpact
  projectedDemandNotServed : cei'.projectedDemandNotServed ≤ cei.projectedDemandNotServed
  capabilityEffectivenessIndex :
    cei.capabilityEffectivenessIndex ≤ cei'.capabilityEffectivenessIndex

namespace MAMASafetyGate

variable {config config' : MAMAConfig} {ednsScore ednsScore' : ℚ} {cei cei' : CEIMetrics}

theorem evaluateFundingGate_mono (hpolicy : NoTighter config config')
    (hnetwork : NoWorse ednsScore cei ednsScore' cei')
    (h : (evaluateFundingGate config cei).passed = true) :
    (evaluateFundingGate config' cei').passed = true := by
  obtain ⟨hsla, htp, hfund⟩ := evaluateFundingGate_passed.1 h
  have hmax : max cei'.slaPenaltyExposure cei'.throughputImpact ≤
      max cei.slaPenaltyExposure cei.throughputImpact :=
    max_le_max hnetwork.slaPenaltyExposure hnetwork.throughputImpact
  refine evaluateFundingGate_passed.2 ⟨?_, ?_, ?_⟩
  · exact le_trans hnetwork.slaPenaltyExposure (le_trans hsla hpolicy.maxSlaPenaltyExposure)
  · exact le_trans hnetwork.throughputImpact (le_trans htp hpolicy.maxThroughputDeviation)
  · have hratio := hpolicy.minFundingRatio
    linarith

theorem evaluateSafetyGate_mono (hpolicy : NoTighter config config')
    (hnetwork : NoWorse ednsScore cei ednsScore' cei')
    (h : (evaluateSafetyGate config ednsScore cei).passed = true) :
    (evaluateSafetyGate config' ednsScore' cei').passed = true := by
  rw [evaluateSafetyGate_passed] at h ⊢
  have hscore := hpolicy.minSafetyScore
  have hedns := hnetwork.ednsScore
  have hcei := hnetwork.capabilityEffectivenessIndex
  linarith

theorem evaluateValueGate_mono (hpolicy : NoTighter config config')
    (hnetwork : NoWorse ednsScore cei ednsScore' cei')
    (h : (evaluateValueGate config cei).passed = true) :
    (evaluateValueGate config' cei').passed = true := by
  rw [evaluateValueGate_passed] at h ⊢
  have hvalue := hpolicy.minValueRealization
  have hcei := hnetwork.capabilityEffectivenessIndex
  have hpdns := hnetwork.projectedDemandNotServed
  linarith

theorem AllPass.mono (h : AllPass config ednsScore cei) (hpolicy : NoTighter config config')
    (hnetwork : NoWorse ednsScore cei ednsScore' cei') : AllPass config' ednsScore' cei' := by
  obtain ⟨hfund, hsafe, hvalue⟩ := h
  exact ⟨evaluateFundingGate_mono hpolicy hnetwork hfund,
    evaluateSafetyGate_mono hpolicy hnetwork hsafe, evaluateValueGate_mono hpolicy hnetwork hvalue⟩

/-- **Decisions are monotone.** What is approved stays approved in a state
of the network that is no worse, under a configuration that is no tighter,
and what is rejected there is rejected here, whatever is requested. -/
theorem evaluate_monotone (hpolicy : NoTighter config config')
    (hnetwork : NoWorse ednsScore cei ednsScore' cei') (capabilities capabilities' : List String) :
    ((evaluate config ednsScore cei capabilities).1 = .approve →
      (evaluate config' ednsScore' cei' capabilities').1 = .approve) ∧
    ((evaluate config' ednsScore' cei' capabilities').1 = .reject →
      (evaluate config ednsScore cei capabilities).1 = .reject) := by
  by_cases hpass : AllPass config ednsScore cei
  · have happrove := evaluate_of_allPass capabilities' (hpass.mono hpolicy hnetwork)
    exact ⟨fun _ => happrove, fun h => absurd (happrove.symm.trans h) (by decide)⟩
  · have hreject := (evaluate_of_not_allPass capabilities hpass).1
    exact ⟨fun h => absurd (hreject.symm.trans h) (by decide), fun _ => hreject⟩

/-- The metrics of a network at rest. -/
def restMetrics : CEIMetrics where
  capabilityEffectivenessIndex := 1
  projectedDemandNotServed := 0
  throughputImpact := 0
  slaPenaltyExposure := 0
  capabilityEffectivenessIndex_mem := unitRange_one
  projectedDemandNotServed_mem := unitRange_zero
  throughputImpact_mem := unitRange_zero
  slaPenaltyExposure_mem := unitRange_zero

/-- From the thresholds, which are approved, to a network at rest; and from
just beyond them, which is rejected, to a network far worse. -/
theorem evaluate_restMetrics :
    ((evaluate .default (25 / 100) thresholdMetrics ["beamform"]).1 = .approve ∧
      (evaluate .default 0 restMetrics []).1 = .approve) ∧
    ((evaluate .default (26 / 100) thresholdMetrics ["beamform"]).1 = .reject ∧
      (evaluate .default (90 / 100) thresholdMetrics []).1 = .reject) := by
  have hthreshold : (evaluate .default (25 / 100) thresholdMetrics ["beamform"]).1 = .approve := by
    rw [evaluate_approve_iff]
    norm_num [MAMAConfig.default, thresholdMetrics]
  have hbeyond : (evaluate .default (26 / 100) thresholdMetrics ["beamform"]).1 = .reject :=
    (evaluate_of_not_allPass _ (by decide +kernel)).1
  have hsame : NoTighter .default .default := ⟨le_rfl, le_rfl, le_rfl, le_rfl, le_rfl⟩
  refine ⟨⟨hthreshold, (evaluate_monotone hsame ?_ _ _).1 hthreshold⟩,
    hbeyond, (evaluate_monotone hsame ?_ _ _).2 hbeyond⟩
  · constructor <;> norm_num [restMetrics, thresholdMetrics, MAMAConfig.default]
  · constructor <;> norm_num

/-! ## The funding ratio -/

/-- The least composite score that the two maxima let through. -/
def compositeFloor (config : MAMAConfig) : ℚ :=
  1 - max config.maxSlaPenaltyExposure config.maxThroughputDeviation

/-- The funding gate rejects for its composite score. -/
def FundingExceeded (config : MAMAConfig) (cei : CEIMetrics) : Prop :=
  (evaluateFundingGate config cei).passed = false ∧
    (evaluateFundingGate config cei).rejectionReason = some .fundingExceeded

theorem fundingExceeded_iff :
    FundingExceeded config cei ↔ cei.slaPenaltyExposure ≤ config.maxSlaPenaltyExposure ∧
      cei.throughputImpact ≤ config.maxThroughputDeviation ∧
      1 - max cei.slaPenaltyExposure cei.throughputImpact < config.minFundingRatio := by
  unfold FundingExceeded evaluateFundingGate
  by_cases hsla : cei.slaPenaltyExposure ≤ config.maxSlaPenaltyExposure
  · by_cases htp : cei.throughputImpact ≤ config.maxThroughputDeviation
    · by_cases hfund : 1 - max cei.slaPenaltyExposure cei.throughputImpact < config.minFundingRatio
      · simp [hsla, htp, hfund]
      · simp [hsla, htp, hfund]
    · simp [hsla, htp]
  · simp [hsla]

/-- The metrics at both maxima, which leave the least composite score. -/
def extremalMetrics (config : MAMAConfig) : CEIMetrics where
  capabilityEffectivenessIndex := 1
  projectedDemandNotServed := 0
  throughputImpact := config.maxThroughputDeviation
  slaPenaltyExposure := config.maxSlaPenaltyExposure
  capabilityEffectivenessIndex_mem := unitRange_one
  projectedDemandNotServed_mem := unitRange_zero
  throughputImpact_mem := config.maxThroughputDeviation_mem
  slaPenaltyExposure_mem := config.maxSlaPenaltyExposure_mem

/-- The two checks before it bound the composite score. -/
theorem compositeFloor_le (hsla : cei.slaPenaltyExposure ≤ config.maxSlaPenaltyExposure)
    (htp : cei.throughputImpact ≤ config.maxThroughputDeviation) :
    compositeFloor config ≤ 1 - max cei.slaPenaltyExposure cei.throughputImpact := by
  have hmax := max_le_max hsla htp
  unfold compositeFloor
  linarith

theorem exists_fundingExceeded_iff :
    (∃ cei, FundingExceeded config cei) ↔ compositeFloor config < config.minFundingRatio := by
  constructor
  · rintro ⟨cei, h⟩
    obtain ⟨hsla, htp, hfund⟩ := fundingExceeded_iff.1 h
    exact lt_of_le_of_lt (compositeFloor_le hsla htp) hfund
  · intro h
    exact ⟨extremalMetrics config, fundingExceeded_iff.2 ⟨le_rfl, le_rfl, h⟩⟩

/-- A configuration with another funding ratio. -/
def withMinFundingRatio (config : MAMAConfig) (ratio : ℚ) (h : UnitRange ratio) : MAMAConfig :=
  { config with minFundingRatio := ratio, minFundingRatio_mem := h }

/-- What an evaluation says, but for the threshold. -/
def verdict (ev : GateEvaluation) : String × Bool × Option RejectionReason × ℚ :=
  (ev.gateName, ev.passed, ev.rejectionReason, ev.score)

/-- Two configurations decide every input alike: with the same result, the
same reason, and the same verdicts of the same gates. -/
def DecideAlike (config config' : MAMAConfig) : Prop :=
  ∀ (ednsScore : ℚ) (cei : CEIMetrics) (capabilities : List String),
    (evaluate config ednsScore cei capabilities).1 =
      (evaluate config' ednsScore cei capabilities).1 ∧
    (evaluate config ednsScore cei capabilities).2.1 =
      (evaluate config' ednsScore cei capabilities).2.1 ∧
    (evaluate config ednsScore cei capabilities).2.2.map verdict =
      (evaluate config' ednsScore cei capabilities).2.2.map verdict

/-- A gate's evaluation by another one's verdict. -/
theorem passed_of_verdict {ev ev' : GateEvaluation} (h : verdict ev = verdict ev') :
    ev.passed = ev'.passed := congrArg (fun v => v.2.1) h

theorem rejectionReason_of_verdict {ev ev' : GateEvaluation} (h : verdict ev = verdict ev') :
    ev.rejectionReason = ev'.rejectionReason := congrArg (fun v => v.2.2.1) h

/-- Below the floor the composite check never fails. -/
theorem verdict_evaluateFundingGate (h : config.minFundingRatio ≤ compositeFloor config) :
    verdict (evaluateFundingGate config cei) =
      if ¬ cei.slaPenaltyExposure ≤ config.maxSlaPenaltyExposure then
        ("funding", false, some .slaPenaltyExceeded, cei.slaPenaltyExposure)
      else if ¬ cei.throughputImpact ≤ config.maxThroughputDeviation then
        ("funding", false, some .throughputDeviation, cei.throughputImpact)
      else ("funding", true, none, 1 - max cei.slaPenaltyExposure cei.throughputImpact) := by
  unfold evaluateFundingGate
  by_cases hsla : cei.slaPenaltyExposure ≤ config.maxSlaPenaltyExposure
  · by_cases htp : cei.throughputImpact ≤ config.maxThroughputDeviation
    · have hfund := not_lt.2 (le_trans h (compositeFloor_le hsla htp))
      simp [hsla, htp, hfund, verdict]
    · simp [hsla, htp, verdict]
  · simp [hsla, verdict]

/-- Below the floor, configurations that differ in the funding ratio only
decide alike. -/
theorem decideAlike_withMinFundingRatio {ratio : ℚ} (hratio : UnitRange ratio)
    (h : config.minFundingRatio ≤ compositeFloor config) (h' : ratio ≤ compositeFloor config) :
    DecideAlike config (withMinFundingRatio config ratio hratio) := by
  intro ednsScore cei capabilities
  have hfund : verdict (evaluateFundingGate config cei) =
      verdict (evaluateFundingGate (withMinFundingRatio config ratio hratio) cei) := by
    have hfloor : (withMinFundingRatio config ratio hratio).minFundingRatio ≤
        compositeFloor (withMinFundingRatio config ratio hratio) := h'
    rw [verdict_evaluateFundingGate h, verdict_evaluateFundingGate hfloor]
    rfl
  -- the other two gates read nothing of the funding ratio
  have hsafe : evaluateSafetyGate (withMinFundingRatio config ratio hratio) ednsScore cei =
      evaluateSafetyGate config ednsScore cei := rfl
  have hvalue : evaluateValueGate (withMinFundingRatio config ratio hratio) cei =
      evaluateValueGate config cei := rfl
  unfold evaluate
  simp only [hsafe, hvalue, ← passed_of_verdict hfund, ← rejectionReason_of_verdict hfund]
  split_ifs <;> exact ⟨rfl, rfl, by simp [hfund]⟩

/-- **When the funding ratio is a live control**: exactly above the least
composite score the maxima let through. There some metrics are rejected for
it; below, it has no influence on any decision. -/
theorem minFundingRatio_live_iff (config : MAMAConfig) :
    ((∃ cei, FundingExceeded config cei) ↔
      1 - max config.maxSlaPenaltyExposure config.maxThroughputDeviation <
        config.minFundingRatio) ∧
    ∀ (ratio : ℚ) (hratio : UnitRange ratio),
      ¬ 1 - max config.maxSlaPenaltyExposure config.maxThroughputDeviation <
        config.minFundingRatio →
      ¬ 1 - max config.maxSlaPenaltyExposure config.maxThroughputDeviation < ratio →
      DecideAlike config (withMinFundingRatio config ratio hratio) :=
  ⟨exists_fundingExceeded_iff, fun _ hratio h h' =>
    decideAlike_withMinFundingRatio hratio (not_lt.1 h) (not_lt.1 h')⟩

end MAMASafetyGate

/-! ## The engine -/

namespace PolicyDecisionEngine

variable {K J : Type} {R : Runtime K J} {config config' : MAMAConfig} {payload : NhpKnkPayload}
  {cei : CEIMetrics} {ambient : Ambient}

/-- A session records the verdicts only. -/
theorem generateSessionParams_congr {evaluations evaluations' : List GateEvaluation}
    (claims : Dict) (h : evaluations.map verdict = evaluations'.map verdict) :
    generateSessionParams payload claims evaluations ambient =
      generateSessionParams payload claims evaluations' ambient := by
  have hmap : ∀ {β : Type} (f : String × Bool × Option RejectionReason × ℚ → β),
      evaluations.map (f ∘ verdict) = evaluations'.map (f ∘ verdict) := by
    intro β f
    rw [← List.map_map, ← List.map_map, h]
  have hresults := hmap fun v => (v.1, v.2.1)
  have hscores := hmap fun v => (v.1, pyRound4 v.2.2.2)
  unfold generateSessionParams
  rw [SessionParams.mk.injEq]
  exact ⟨rfl, rfl, rfl, rfl, hresults, hscores⟩

/-- **Configurations that decide alike** make the engine give the same
results. -/
theorem evaluate_of_decideAlike (h : DecideAlike config config') (v : NhpJwtValidator K) :
    call (evaluate R config payload cei ambient) v =
      call (evaluate R config' payload cei ambient) v := by
  have hjudged : ∀ claims, judged config payload cei ambient claims =
      judged config' payload cei ambient claims := by
    intro claims
    obtain ⟨hresult, hreason, hverdicts⟩ :=
      h payload.nhpSbaContext.currentEdns cei [payload.nhpSbaIntent.actionClass]
    unfold judged
    simp only [hresult, hreason, generateSessionParams_congr claims hverdicts]
  rw [call_evaluate, call_evaluate]
  simp only [hjudged]

end PolicyDecisionEngine

end Policy

end NhpSba
