import NhpSba.Api.Model.Routes
import NhpSba.Policy.Specification
/-!
# The API answers every submission, and fails closed

The engine lets one kind of token escape its handlers; the route answers it
500, and so every submission is answered. An approval stands for a knock
that was read, validated and passed by the gates (`answer_of_allPass`), and
for nothing else (`answer_of_rejected`).
-/

namespace NhpSba

namespace Api

open Knock Policy Fallible MAMASafetyGate

variable {K J : Type} (pkgs : Packages K J) (config : MAMAConfig) (body : KnkSubmitRequest)
  (ambient : RequestAmbient)

/-- The response to a knock, for the engine's result. -/
def respond (payload : NhpKnkPayload) (result : PolicyResult) : KnkSubmitResponse :=
  if result.decision = .approve then
    { requestId := String.ofList (ambient.uuid.toList.take 8)
      decision := "APPROVE"
      sessionId := result.sessionParams.map SessionParams.sessionId
      validatedNodeId := some payload.nhpSbaIntent.targetService }
  else
    { requestId := String.ofList (ambient.uuid.toList.take 8)
      decision := "REJECT"
      reason := some ((result.reason.map RejectionReason.value).getD "unknown")
      validatedNodeId := some payload.nhpSbaIntent.targetService }

/-- The answer to a knock that was read, for the engine's outcome. -/
def answerOf (payload : NhpKnkPayload) :
    Except PyException PolicyResult → Except HTTPException KnkSubmitResponse
  | .error exc => .error ⟨500, s!"Policy evaluation failed: {exc.message}"⟩
  | .ok result => .ok (respond ambient payload result)

variable {pkgs config body ambient} {payload : NhpKnkPayload} {v : NhpJwtValidator K}

theorem call_submitKnk_error {exc : PyException}
    (h : readKnock pkgs body ambient.parsing = .error exc) :
    call (submitKnk pkgs config body ambient) v = (.error ⟨400, exc.message⟩, v) := by
  unfold submitKnk
  rw [call_bind, call_mapError, call_lift, h]
  rfl

/-- **What a submission does**: past the parser it leaves the validator as
the engine does, and turns its outcome into an answer. -/
theorem call_submitKnk_ok (h : readKnock pkgs body ambient.parsing = .ok payload) :
    call (submitKnk pkgs config body ambient) v =
      (answerOf ambient payload (call (PolicyDecisionEngine.evaluate pkgs.runtime config payload
        body.ceiMetrics ambient.evaluation) v).1,
        (call (PolicyDecisionEngine.evaluate pkgs.runtime config payload body.ceiMetrics
          ambient.evaluation) v).2) := by
  unfold submitKnk
  rw [call_bind, call_mapError, call_lift, h]
  simp only [Except.mapError, call_bind, call_mapError]
  rcases call (PolicyDecisionEngine.evaluate pkgs.runtime config payload body.ceiMetrics
    ambient.evaluation) v with ⟨exc | result, v'⟩
  · rfl
  · simp only [answerOf, respond]
    split <;> rfl

/-- A submission leaves the validator as `validate` does. -/
theorem snd_call_submitKnk (h : readKnock pkgs body ambient.parsing = .ok payload) :
    (call (submitKnk pkgs config body ambient) v).2 =
      (call (NhpJwtValidator.validate pkgs.runtime payload ambient.evaluation.clock) v).2 := by
  rw [call_submitKnk_ok h, PolicyDecisionEngine.call_evaluate]

/-! ## The answers to a knock that was read -/

/-- A knock that escapes the engine is answered 500. -/
theorem answer_of_escapes (config : MAMAConfig)
    (h : readKnock pkgs body ambient.parsing = .ok payload)
    (hescapes : NhpJwtValidator.Escapes pkgs.runtime v.trustStore payload) :
    ∃ detail, (call (submitKnk pkgs config body ambient) v).1 = .error ⟨500, detail⟩ := by
  have hnot : ¬ ∀ exc, (call (NhpJwtValidator.validate pkgs.runtime payload
      ambient.evaluation.clock) v).1 = .error exc → exc.IsJwt :=
    fun hraises => (NhpJwtValidator.validate_raises_iff _).1 hraises hescapes
  push Not at hnot
  obtain ⟨exc, hexc, hkind⟩ := hnot
  refine ⟨s!"Policy evaluation failed: {exc.message}", ?_⟩
  rw [call_submitKnk_ok h, PolicyDecisionEngine.call_evaluate, hexc]
  cases exc with
  | jwtValidationError message reason => exact absurd trivial hkind
  | _ => rfl

/-- An accepted knock is answered as the gates judge it. -/
theorem answer_of_accepted (h : readKnock pkgs body ambient.parsing = .ok payload) {claims : Dict}
    (hok : (call (NhpJwtValidator.validate pkgs.runtime payload ambient.evaluation.clock) v).1
      = .ok claims) :
    (call (submitKnk pkgs config body ambient) v).1 =
      .ok (respond ambient payload (PolicyDecisionEngine.judged config payload body.ceiMetrics
        ambient.evaluation claims)) := by
  rw [call_submitKnk_ok h, PolicyDecisionEngine.call_evaluate, hok]
  rfl

/-- **An approval** is for a knock that the validator accepts and all gates
pass. -/
theorem answer_of_allPass (h : readKnock pkgs body ambient.parsing = .ok payload) {claims : Dict}
    (hok : (call (NhpJwtValidator.validate pkgs.runtime payload ambient.evaluation.clock) v).1
      = .ok claims)
    (hpass : AllPass config payload.nhpSbaContext.currentEdns body.ceiMetrics) :
    ∃ response, (call (submitKnk pkgs config body ambient) v).1 = .ok response ∧
      response.decision = "APPROVE" ∧ response.sessionId = some ambient.evaluation.sessionId ∧
      response.validatedNodeId = some payload.nhpSbaIntent.targetService := by
  have happrove :=
    (PolicyDecisionEngine.judged_of_allPass ambient.evaluation claims hpass).1
  refine ⟨_, answer_of_accepted h hok, ?_⟩
  rw [respond, if_pos happrove, PolicyDecisionEngine.sessionParams_of_allPass claims hpass]
  exact ⟨rfl, rfl, rfl⟩

/-- **Every other knock is rejected**, with one of the reasons that there
are: `"unknown"` is never sent. -/
theorem answer_of_rejected (config : MAMAConfig)
    (h : readKnock pkgs body ambient.parsing = .ok payload)
    (hescapes : ¬ NhpJwtValidator.Escapes pkgs.runtime v.trustStore payload)
    (hnot : ¬ (succeeded (call (NhpJwtValidator.validate pkgs.runtime payload
        ambient.evaluation.clock) v).1 = true ∧
      AllPass config payload.nhpSbaContext.currentEdns body.ceiMetrics)) :
    ∃ response, (call (submitKnk pkgs config body ambient) v).1 = .ok response ∧
      response.decision = "REJECT" ∧ response.sessionId = none ∧
      ∃ reason : RejectionReason, response.reason = some reason.value := by
  cases hvalid : (call (NhpJwtValidator.validate pkgs.runtime payload
      ambient.evaluation.clock) v).1 with
  | error exc =>
    have hkind : exc.IsJwt :=
      (NhpJwtValidator.validate_raises_iff ambient.evaluation.clock).2 hescapes exc hvalid
    rw [call_submitKnk_ok h, PolicyDecisionEngine.call_evaluate, hvalid]
    cases exc with
    | jwtValidationError message reason =>
      exact ⟨_, rfl, rfl, rfl, PolicyDecisionEngine.mapJwtError reason, rfl⟩
    | _ => exact hkind.elim
  | ok claims =>
    have hfail : ¬ AllPass config payload.nhpSbaContext.currentEdns body.ceiMetrics :=
      fun hpass => hnot ⟨by rw [hvalid]; rfl, hpass⟩
    obtain ⟨hreject, -, reason, hreason⟩ :=
      PolicyDecisionEngine.judged_of_not_allPass ambient.evaluation claims hfail
    refine ⟨_, answer_of_accepted h hvalid, ?_⟩
    rw [respond, hreject, hreason]
    exact ⟨rfl, rfl, reason, rfl⟩

end Api

end NhpSba
