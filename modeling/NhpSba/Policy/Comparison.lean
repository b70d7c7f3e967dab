import NhpSba.Policy.Thresholds
/-!
# Policy — comparing configurations

The five thresholds of a configuration overlap: the funding ratio bounds
the exposure and the impact that its maxima bound, and a capability as
effective as the value gate asks is worth something to the safety gate. What
they leave are four limits (`limits`), and each of them is reached by
something that is approved. So a configuration permits what another one
does exactly where its limits are no tighter (`permits_iff`), and two that
approve alike have the same limits.
-/

namespace NhpSba

namespace Policy

open Knock Fallible

namespace MAMASafetyGate

/-- What a configuration comes to: the largest exposure and the largest
impact that it approves, and the least safety and the least value. -/
structure Limits where
  slaPenaltyExposure : ℚ
  throughputImpact : ℚ
  safetyScore : ℚ
  valueRealization : ℚ
  deriving DecidableEq

namespace Limits

/-- No tighter limits. -/
instance : LE Limits where
  le l l' := l.slaPenaltyExposure ≤ l'.slaPenaltyExposure ∧
    l.throughputImpact ≤ l'.throughputImpact ∧ l'.safetyScore ≤ l.safetyScore ∧
    l'.valueRealization ≤ l.valueRealization

instance (l l' : Limits) : Decidable (l ≤ l') := inferInstanceAs (Decidable (_ ∧ _ ∧ _ ∧ _))

theorem eq_iff_le_le {l l' : Limits} : l = l' ↔ l ≤ l' ∧ l' ≤ l := by
  constructor
  · rintro rfl
    exact ⟨⟨le_rfl, le_rfl, le_rfl, le_rfl⟩, ⟨le_rfl, le_rfl, le_rfl, le_rfl⟩⟩
  · rintro ⟨⟨hsla, htp, hsafe, hvalue⟩, ⟨hsla', htp', hsafe', hvalue'⟩⟩
    rw [Limits.mk.injEq]
    exact ⟨le_antisymm hsla hsla', le_antisymm htp htp', le_antisymm hsafe' hsafe,
      le_antisymm hvalue' hvalue⟩

end Limits

/-- The limits of a configuration. -/
def limits (config : MAMAConfig) : Limits where
  slaPenaltyExposure := min config.maxSlaPenaltyExposure (1 - config.minFundingRatio)
  throughputImpact := min config.maxThroughputDeviation (1 - config.minFundingRatio)
  safetyScore := max config.minSafetyScore (4 / 10 * config.minValueRealization)
  valueRealization := config.minValueRealization

/-- The safety score of an input. -/
def safetyScore (ednsScore : ℚ) (cei : CEIMetrics) : ℚ :=
  6 / 10 * (1 - ednsScore) + 4 / 10 * cei.capabilityEffectivenessIndex

variable {config config' : MAMAConfig} {ednsScore : ℚ} {cei : CEIMetrics}

/-- **What is approved** is what keeps within the limits. -/
theorem allPass_iff_limits (hedns : UnitRange ednsScore) :
    AllPass config ednsScore cei ↔
      cei.slaPenaltyExposure ≤ (limits config).slaPenaltyExposure ∧
        cei.throughputImpact ≤ (limits config).throughputImpact ∧
        (limits config).safetyScore ≤ safetyScore ednsScore cei ∧
        (limits config).valueRealization ≤
          cei.capabilityEffectivenessIndex - cei.projectedDemandNotServed := by
  rw [AllPass, evaluateFundingGate_passed, evaluateSafetyGate_passed, evaluateValueGate_passed]
  simp only [limits, safetyScore, le_min_iff, max_le_iff]
  have hedns := hedns.2
  have hpdns := cei.projectedDemandNotServed_mem.1
  constructor
  · rintro ⟨⟨hsla, htp, hfund⟩, hsafe, hvalue⟩
    have hslaMax := le_max_left cei.slaPenaltyExposure cei.throughputImpact
    have htpMax := le_max_right cei.slaPenaltyExposure cei.throughputImpact
    refine ⟨⟨hsla, by linarith⟩, ⟨htp, by linarith⟩, ⟨hsafe, ?_⟩, hvalue⟩
    linarith
  · rintro ⟨⟨hsla, hslaFund⟩, ⟨htp, htpFund⟩, ⟨hsafe, -⟩, hvalue⟩
    have hmax := max_le hslaFund htpFund
    refine ⟨⟨hsla, htp, ?_⟩, hsafe, hvalue⟩
    linarith

/-! ## Limits are reached -/

theorem unitRange_slaPenaltyExposure (config : MAMAConfig) :
    UnitRange (limits config).slaPenaltyExposure := by
  have hsla := config.maxSlaPenaltyExposure_mem
  have hfund := config.minFundingRatio_mem
  exact ⟨le_min hsla.1 (sub_nonneg.2 hfund.2), min_le_of_left_le hsla.2⟩

theorem unitRange_throughputImpact (config : MAMAConfig) :
    UnitRange (limits config).throughputImpact := by
  have htp := config.maxThroughputDeviation_mem
  have hfund := config.minFundingRatio_mem
  exact ⟨le_min htp.1 (sub_nonneg.2 hfund.2), min_le_of_left_le htp.2⟩

theorem unitRange_safetyScore (config : MAMAConfig) : UnitRange (limits config).safetyScore := by
  obtain ⟨hsafe, hsafe'⟩ := config.minSafetyScore_mem
  obtain ⟨-, hvalue⟩ := config.minValueRealization_mem
  refine ⟨le_max_of_le_left hsafe, max_le hsafe' ?_⟩
  linarith

theorem unitRange_one_sub {q : ℚ} (h : UnitRange q) : UnitRange (1 - q) :=
  ⟨sub_nonneg.2 h.2, sub_le_self 1 h.1⟩

/-- A network at rest but for its exposure and its impact. -/
def exposedMetrics {sla tp : ℚ} (hsla : UnitRange sla) (htp : UnitRange tp) : CEIMetrics :=
  { restMetrics with
    slaPenaltyExposure := sla
    throughputImpact := tp
    slaPenaltyExposure_mem := hsla
    throughputImpact_mem := htp }

/-- At both limits it is approved, if nothing else is wrong. -/
theorem allPass_exposed (config : MAMAConfig) :
    AllPass config 0
      (exposedMetrics (unitRange_slaPenaltyExposure config)
        (unitRange_throughputImpact config)) := by
  refine (allPass_iff_limits unitRange_zero).2 ⟨le_rfl, le_rfl, ?_, ?_⟩
  · have hsafe := (unitRange_safetyScore config).2
    simp only [safetyScore, exposedMetrics, restMetrics]
    linarith
  · simp only [exposedMetrics, restMetrics, sub_zero]
    exact config.minValueRealization_mem.2

/-- A network at rest but for its capability and the demand not served. -/
def capableMetrics {index pdns : ℚ} (hindex : UnitRange index) (hpdns : UnitRange pdns) :
    CEIMetrics :=
  { restMetrics with
    capabilityEffectivenessIndex := index
    projectedDemandNotServed := pdns
    capabilityEffectivenessIndex_mem := hindex
    projectedDemandNotServed_mem := hpdns }

theorem allPass_capable {index pdns : ℚ} {hindex : UnitRange index} {hpdns : UnitRange pdns}
    (hedns : UnitRange ednsScore)
    (hsafe : (limits config).safetyScore ≤
      safetyScore ednsScore (capableMetrics hindex hpdns))
    (hvalue : config.minValueRealization ≤ index - pdns) :
    AllPass config ednsScore (capableMetrics hindex hpdns) :=
  (allPass_iff_limits hedns).2
    ⟨(unitRange_slaPenaltyExposure config).1, (unitRange_throughputImpact config).1, hsafe, hvalue⟩

/-- The least value is approved, where all else is at rest. -/
theorem allPass_worthless (config : MAMAConfig) :
    AllPass config 0
      (capableMetrics unitRange_one (unitRange_one_sub config.minValueRealization_mem)) := by
  refine allPass_capable unitRange_zero ?_ ?_
  · have hsafe := (unitRange_safetyScore config).2
    simp only [safetyScore, capableMetrics]
    linarith
  · linarith

/-- **The least safety is approved**: the capability is the least that the
value gate asks, or more where the demand alone is not risk enough. -/
theorem exists_allPass_unsafe (config : MAMAConfig) :
    ∃ ednsScore cei, UnitRange ednsScore ∧ AllPass config ednsScore cei ∧
      safetyScore ednsScore cei = (limits config).safetyScore := by
  obtain ⟨-, hscore⟩ := unitRange_safetyScore config
  obtain ⟨hvalue, hvalue'⟩ := config.minValueRealization_mem
  have hleast : 4 / 10 * config.minValueRealization ≤ (limits config).safetyScore :=
    le_max_right ..
  by_cases hrisky : (limits config).safetyScore ≤ 6 / 10 + 4 / 10 * config.minValueRealization
  · -- the demand makes up for what the capability does not
    let edns : ℚ :=
      1 - ((limits config).safetyScore - 4 / 10 * config.minValueRealization) * (10 / 6)
    have hedns : UnitRange edns := by
      constructor
      · simp only [edns]
        linarith
      · simp only [edns]
        linarith
    have hsafe : safetyScore edns (capableMetrics config.minValueRealization_mem unitRange_zero) =
        (limits config).safetyScore := by
      simp only [safetyScore, capableMetrics, edns]
      linarith
    exact ⟨edns, _, hedns, allPass_capable hedns hsafe.ge (by linarith), hsafe⟩
  · let index : ℚ := ((limits config).safetyScore - 6 / 10) * (10 / 4)
    have hindex : UnitRange index := by
      constructor
      · simp only [index]
        linarith
      · simp only [index]
        linarith
    have hsafe : safetyScore 0 (capableMetrics hindex unitRange_zero) =
        (limits config).safetyScore := by
      simp only [safetyScore, capableMetrics, index]
      linarith
    refine ⟨0, _, unitRange_zero, allPass_capable unitRange_zero hsafe.ge ?_, hsafe⟩
    simp only [index]
    linarith

/-! ## Comparing -/

/-- A configuration approves what another one does. -/
def Permits (config config' : MAMAConfig) : Prop :=
  ∀ ednsScore cei capabilities, UnitRange ednsScore →
    (evaluate config ednsScore cei capabilities).1 = .approve →
      (evaluate config' ednsScore cei capabilities).1 = .approve

theorem permits_iff_allPass : Permits config config' ↔
    ∀ ednsScore cei, UnitRange ednsScore → AllPass config ednsScore cei →
      AllPass config' ednsScore cei := by
  simp only [Permits, evaluate_eq_approve_iff]
  exact ⟨fun h ednsScore cei => h ednsScore cei [], fun h ednsScore cei _ => h ednsScore cei⟩

/-- **A configuration permits what another one does** exactly where its
limits are no tighter. -/
theorem permits_iff : Permits config config' ↔ limits config ≤ limits config' := by
  rw [permits_iff_allPass]
  constructor
  · intro h
    have hexposed :=
      (allPass_iff_limits unitRange_zero).1 (h _ _ unitRange_zero (allPass_exposed config))
    have hworthless := (allPass_iff_limits unitRange_zero).1
      (h _ _ unitRange_zero (allPass_worthless config))
    obtain ⟨edns, cei, hedns, hpass, hscore⟩ := exists_allPass_unsafe config
    have hunsafe := (allPass_iff_limits hedns).1 (h _ _ hedns hpass)
    refine ⟨hexposed.1, hexposed.2.1, ?_, ?_⟩
    · rw [← hscore]
      exact hunsafe.2.2.1
    · have hleast := hworthless.2.2.2
      simp only [capableMetrics, sub_sub_cancel] at hleast
      exact hleast
  · rintro ⟨hsla, htp, hsafe, hvalue⟩ ednsScore cei hedns hpass
    obtain ⟨hsla', htp', hsafe', hvalue'⟩ := (allPass_iff_limits hedns).1 hpass
    exact (allPass_iff_limits hedns).2 ⟨le_trans hsla' hsla, le_trans htp' htp,
      le_trans hsafe hsafe', le_trans hvalue hvalue'⟩

/-- Two configurations approve alike. -/
def ApproveAlike (config config' : MAMAConfig) : Prop :=
  ∀ ednsScore cei capabilities, UnitRange ednsScore →
    (evaluate config ednsScore cei capabilities).1 =
      (evaluate config' ednsScore cei capabilities).1

theorem approveAlike_iff_permits :
    ApproveAlike config config' ↔ Permits config config' ∧ Permits config' config := by
  constructor
  · intro h
    refine ⟨fun ednsScore cei capabilities hedns happrove => ?_,
      fun ednsScore cei capabilities hedns happrove => ?_⟩
    · rw [← h ednsScore cei capabilities hedns]
      exact happrove
    · rw [h ednsScore cei capabilities hedns]
      exact happrove
  · rintro ⟨h, h'⟩ ednsScore cei capabilities hedns
    have hback := h' ednsScore cei capabilities hedns
    cases hresult : (evaluate config ednsScore cei capabilities).1 with
    | approve => exact (h ednsScore cei capabilities hedns hresult).symm
    | reject =>
      cases hresult' : (evaluate config' ednsScore cei capabilities).1 with
      | approve => exact absurd (hresult.symm.trans (hback hresult')) (by decide)
      | reject => rfl

theorem approveAlike_iff : ApproveAlike config config' ↔ limits config = limits config' := by
  rw [approveAlike_iff_permits, permits_iff, permits_iff, Limits.eq_iff_le_le]

/-- Where all pass, the verdicts are nothing of the configuration's. -/
theorem verdict_gates (h : AllPass config ednsScore cei) :
    (gates config ednsScore cei).map verdict =
      [("funding", true, none, 1 - max cei.slaPenaltyExposure cei.throughputImpact),
        ("safety", true, none, safetyScore ednsScore cei),
        ("value_realization", true, none,
          cei.capabilityEffectivenessIndex - cei.projectedDemandNotServed)] := by
  obtain ⟨hfund, hsafe, hvalue⟩ := h
  obtain ⟨hsla, htp, hratio⟩ := evaluateFundingGate_passed.1 hfund
  have hsafe := not_lt.2 (evaluateSafetyGate_passed.1 hsafe)
  have hvalue := not_lt.2 (evaluateValueGate_passed.1 hvalue)
  simp [gates, verdict, evaluateFundingGate, evaluateSafetyGate, evaluateValueGate, safetyScore,
    hsla, htp, not_lt.2 hratio, hsafe, hvalue]

end MAMASafetyGate

/-! ## The engine -/

namespace PolicyDecisionEngine

open MAMASafetyGate

variable {K J : Type} {R : Runtime K J} {config config' : MAMAConfig} {payload : NhpKnkPayload}
  {cei : CEIMetrics} {ambient : Ambient} {v : NhpJwtValidator K} {result : PolicyResult}

/-- A session is made of the verdicts, so whatever configuration it is that
approves makes the same one. -/
theorem judged_of_permits (claims : Dict) (hpermits : Permits config config')
    (h : AllPass config payload.nhpSbaContext.currentEdns cei) :
    judged config' payload cei ambient claims = judged config payload cei ambient claims := by
  have h' := permits_iff_allPass.1 hpermits _ cei payload.nhpSbaContext.currentEdns_mem h
  have happrove := evaluate_of_allPass [payload.nhpSbaIntent.actionClass] h
  have happrove' := evaluate_of_allPass [payload.nhpSbaIntent.actionClass] h'
  have hverdicts := (verdict_gates h').trans (verdict_gates h).symm
  have hparams : (judged config payload cei ambient claims).sessionParams =
      some (generateSessionParams payload claims
        (gates config payload.nhpSbaContext.currentEdns cei) ambient) :=
    sessionParams_of_allPass claims h
  have hparams' : (judged config' payload cei ambient claims).sessionParams =
      some (generateSessionParams payload claims
        (gates config' payload.nhpSbaContext.currentEdns cei) ambient) :=
    sessionParams_of_allPass claims h'
  rw [generateSessionParams_congr claims hverdicts, ← hparams] at hparams'
  unfold judged at hparams hparams' ⊢
  simp only [happrove, happrove'] at hparams' ⊢
  rw [PolicyResult.mk.injEq]
  exact ⟨rfl, rfl, rfl, hparams', rfl⟩

/-- **What the engine approves under one configuration** it answers in the
same way under any that permits as much. -/
theorem evaluate_of_permits (hpermits : Permits config config')
    (hresult : (call (evaluate R config payload cei ambient) v).1 = .ok result)
    (happrove : result.decision = .approve) :
    (call (evaluate R config' payload cei ambient) v).1 = .ok result := by
  rw [call_evaluate] at hresult ⊢
  cases hvalid : (call (NhpJwtValidator.validate R payload ambient.clock) v).1 with
  | error exc =>
    rw [hvalid] at hresult
    cases exc with
    | _ => exact hresult
  | ok claims =>
    rw [hvalid] at hresult
    obtain rfl := Except.ok.inj hresult
    by_cases hpass : AllPass config payload.nhpSbaContext.currentEdns cei
    · exact congrArg Except.ok (judged_of_permits claims hpermits hpass)
    · rw [(judged_of_not_allPass ambient claims hpass).1] at happrove
      cases happrove

end PolicyDecisionEngine

/-- **Comparing configurations.** One approves whatever another one does
exactly where its four limits are no tighter, and the engine then answers
what it approves there in the same way; two approve alike exactly where
their limits are the same. -/
theorem configurations_compared (config config' : MAMAConfig) :
    (MAMASafetyGate.Permits config config' ↔
      MAMASafetyGate.limits config ≤ MAMASafetyGate.limits config') ∧
    (MAMASafetyGate.ApproveAlike config config' ↔
      MAMASafetyGate.limits config = MAMASafetyGate.limits config') ∧
    (MAMASafetyGate.limits config ≤ MAMASafetyGate.limits config' →
      ∀ {K J : Type} (R : Runtime K J) (v : NhpJwtValidator K) (payload : NhpKnkPayload)
        (cei : CEIMetrics) (ambient : Ambient) (result : PolicyResult),
        (call (PolicyDecisionEngine.evaluate R config payload cei ambient) v).1 = .ok result →
        result.decision = .approve →
        (call (PolicyDecisionEngine.evaluate R config' payload cei ambient) v).1 = .ok result) :=
  ⟨MAMASafetyGate.permits_iff, MAMASafetyGate.approveAlike_iff,
    fun hlimits _ _ _ _ _ _ _ _ => PolicyDecisionEngine.evaluate_of_permits
      (MAMASafetyGate.permits_iff.2 hlimits)⟩

/-- Of the default thresholds, the funding ratio limits nothing. -/
example : MAMASafetyGate.limits .default =
    { slaPenaltyExposure := 15 / 100
      throughputImpact := 20 / 100
      safetyScore := 85 / 100
      valueRealization := 10 / 100 } := by
  decide +kernel

end Policy

end NhpSba
