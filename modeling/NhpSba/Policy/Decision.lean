import NhpSba.Knock.Containment
import NhpSba.Knock.Parser
import NhpSba.Policy.Gates
/-!
# Policy — the decision

`evaluate` is the validator's outcome and then the gates' (`call_evaluate`).
It fails closed on every knock but those that escape the validator
(`failClosed_iff`).
-/

namespace NhpSba

namespace Policy

open Knock Fallible MAMASafetyGate

namespace PolicyDecisionEngine

variable {K J : Type} (R : Runtime K J) (config : MAMAConfig) (payload : NhpKnkPayload)
  (cei : CEIMetrics) (ambient : Ambient)

/-- The result for a knock the validator refused. -/
def refused (message rejectionReason : String) : PolicyResult where
  decision := .reject
  reason := some (mapJwtError rejectionReason)
  rejectionDetail := some message
  sessionParams := none
  validatedClaims := none

/-- The result for a knock the validator accepted. -/
def judged (validatedClaims : Dict) : PolicyResult :=
  let (gateResult, gateReason, gateEvaluations) :=
    MAMASafetyGate.evaluate config payload.nhpSbaContext.currentEdns cei
      [payload.nhpSbaIntent.actionClass]
  if gateResult = .reject then
    { decision := .reject
      reason := mapGateRejection gateReason
      rejectionDetail := some s!"MAMA gate rejection: {formatReason gateReason}"
      sessionParams := none
      validatedClaims := none }
  else
    { decision := .approve
      reason := none
      rejectionDetail := none
      sessionParams :=
        some (generateSessionParams payload validatedClaims gateEvaluations ambient)
      validatedClaims := some validatedClaims }

variable {R config payload cei ambient}

/-- **What one evaluation does**: it leaves the validator as `validate`
does, and turns its outcome into a result, or lets it escape. -/
theorem call_evaluate (v : NhpJwtValidator K) :
    call (evaluate R config payload cei ambient) v =
      ((match (call (NhpJwtValidator.validate R payload ambient.clock) v).1 with
        | .ok claims => .ok (judged config payload cei ambient claims)
        | .error (.jwtValidationError message reason) => .ok (refused message reason)
        | .error exc => .error exc),
        (call (NhpJwtValidator.validate R payload ambient.clock) v).2) := by
  unfold evaluate
  rw [call_bind, call_attempt]
  rcases call (NhpJwtValidator.validate R payload ambient.clock) v with ⟨exc | claims, v'⟩
  · cases exc <;> rfl
  · simp only [judged]
    split <;> rfl

/-- Where the gates pass, the knock is approved, and the session is made
of the cleartext intent. -/
theorem judged_of_allPass (ambient : Ambient) (claims : Dict)
    (h : AllPass config payload.nhpSbaContext.currentEdns cei) :
    (judged config payload cei ambient claims).decision = .approve ∧
      (judged config payload cei ambient claims).validatedClaims = some claims ∧
      ∃ params, (judged config payload cei ambient claims).sessionParams = some params ∧
        params.nodeId = payload.nhpSbaIntent.targetService ∧
        params.grantedCapabilities = [payload.nhpSbaIntent.actionClass] := by
  have happrove := evaluate_of_allPass [payload.nhpSbaIntent.actionClass] h
  unfold judged
  simp only [happrove]
  exact ⟨rfl, rfl, _, rfl, rfl, rfl⟩

/-- Where a gate fails, the knock is rejected for its reason. -/
theorem judged_of_not_allPass (ambient : Ambient) (claims : Dict)
    (h : ¬ AllPass config payload.nhpSbaContext.currentEdns cei) :
    (judged config payload cei ambient claims).decision = .reject ∧
      (judged config payload cei ambient claims).sessionParams = none ∧
      ∃ reason, (judged config payload cei ambient claims).reason = some reason := by
  obtain ⟨hreject, reason, hreason, hgate⟩ :=
    evaluate_of_not_allPass [payload.nhpSbaIntent.actionClass] h
  have hmapped : mapGateRejection (MAMASafetyGate.evaluate config
      payload.nhpSbaContext.currentEdns cei [payload.nhpSbaIntent.actionClass]).2.1 =
        some reason := by
    rw [hgate]
    exact mapGateRejection_gateReason hreason
  unfold judged
  rcases hres : MAMASafetyGate.evaluate config payload.nhpSbaContext.currentEdns cei
    [payload.nhpSbaIntent.actionClass] with ⟨result, gateReason, evaluations⟩
  rw [hres] at hreject hmapped
  obtain rfl : result = .reject := hreject
  exact ⟨rfl, rfl, reason, hmapped⟩

/-! ## Failing closed -/

/-- The law of a fail-closed engine: it returns a result, which approves
exactly what the validator accepts and all three gates pass, and which has
a reason where it rejects. -/
def FailClosed (R : Runtime K J) (config : MAMAConfig) (v : NhpJwtValidator K)
    (payload : NhpKnkPayload) (cei : CEIMetrics) (ambient : Ambient) : Prop :=
  ∃ result, (call (evaluate R config payload cei ambient) v).1 = .ok result ∧
    (result.decision = .approve ↔
      succeeded (call (NhpJwtValidator.validate R payload ambient.clock) v).1 = true ∧
        AllPass config payload.nhpSbaContext.currentEdns cei) ∧
    (result.decision = .reject → ∃ reason, result.reason = some reason)

variable {v : NhpJwtValidator K}

/-- The engine lets escape what the validator lets escape. -/
theorem not_failClosed_of_escapes (h : NhpJwtValidator.Escapes R v.trustStore payload) :
    ¬ FailClosed R config v payload cei ambient := by
  rintro ⟨result, hresult, -⟩
  refine (NhpJwtValidator.validate_raises_iff ambient.clock).1 (fun exc hexc => ?_) h
  rw [call_evaluate, hexc] at hresult
  cases exc with
  | jwtValidationError message reason => trivial
  | _ => cases hresult

/-- What the validator answers with a `JwtValidationError` or with claims
is decided. -/
theorem failClosed_of_not_escapes (h : ¬ NhpJwtValidator.Escapes R v.trustStore payload) :
    FailClosed R config v payload cei ambient := by
  have hraises := (NhpJwtValidator.validate_raises_iff ambient.clock).2 h
  unfold FailClosed
  rw [call_evaluate]
  cases hvalid : (call (NhpJwtValidator.validate R payload ambient.clock) v).1 with
  | error exc =>
    cases exc with
    | jwtValidationError message reason =>
      refine ⟨refused message reason, rfl, ⟨fun hd => ?_, fun hd => ?_⟩, fun _ => ⟨_, rfl⟩⟩
      · cases hd
      · cases hd.1
    -- the validator raises no other kind
    | _ => exact (hraises _ hvalid).elim
  | ok claims =>
    refine ⟨judged config payload cei ambient claims, rfl, ?_⟩
    by_cases hpass : AllPass config payload.nhpSbaContext.currentEdns cei
    · have happrove : (judged config payload cei ambient claims).decision = .approve :=
        (judged_of_allPass ambient claims hpass).1
      exact ⟨⟨fun _ => ⟨rfl, hpass⟩, fun _ => happrove⟩, fun hd => by rw [happrove] at hd; cases hd⟩
    · have hreject : (judged config payload cei ambient claims).decision = .reject :=
        (judged_of_not_allPass ambient claims hpass).1
      refine ⟨⟨fun hd => ?_, fun hd => absurd hd.2 hpass⟩,
        fun _ => (judged_of_not_allPass ambient claims hpass).2.2⟩
      rw [hreject] at hd
      cases hd

/-- **The pipeline fails closed but for one malformed header.** Of the
engine: on every knock but those of a trusted node and key whose token's
header is a JSON value other than an object. Of `verify_compact`: on every
token but those with such a header. -/
theorem failClosed_iff (R : Runtime K J) (config : MAMAConfig) :
    (∀ (v : NhpJwtValidator K) (payload : NhpKnkPayload) (cei : CEIMetrics) (ambient : Ambient),
      FailClosed R config v payload cei ambient ↔
        ¬ NhpJwtValidator.Escapes R v.trustStore payload) ∧
    ∀ (jwsToken : String) (publicKeyBytes : Bytes),
      Raises PyException.IsJws (JwsVerifier.verifyCompact R jwsToken publicKeyBytes) ↔
        ¬ JwsVerifier.HeaderNotObject R jwsToken :=
  ⟨fun _ _ _ _ => ⟨fun h hesc => not_failClosed_of_escapes hesc h, failClosed_of_not_escapes⟩,
    JwsVerifier.verifyCompact_raises_iff⟩

/-- A knock whose token's header is the empty JSON list. -/
def listHeaderKnock : NhpKnkPayload :=
  { Sample.knock "node-a" "c2FtcGxlIG5vbmNlIDAwMQ==" 1 1700000000 0
      (by decide +kernel) Sample.nonce_length Sample.issued_pos with
    jws := "W10.e30.AA"
    jws_length := by decide +kernel }

/-- The packages, for that header. -/
def listHeaderPackages : Runtime Bytes String := Sample.runtime [("[]", .list [])]

/-- **One header escapes every handler.** The parser accepts the knock, and
the engine raises an `AttributeError`, as does `verify_compact`. -/
theorem listHeader_escapes :
    NhpKnkParser.Accepts listHeaderPackages listHeaderKnock 1700000000 ∧
      (∀ cei ambient, ¬ FailClosed listHeaderPackages .default
        (.new (Sample.store [("node-a", 1)])) listHeaderKnock cei ambient) ∧
      ¬ Raises PyException.IsJws
        (JwsVerifier.verifyCompact listHeaderPackages listHeaderKnock.jws (Sample.key 1)) := by
  have hparts : listHeaderKnock.jws.toList.splitOn '.' =
      [['W', '1', '0'], ['e', '3', '0'], ['A', 'A']] := by decide +kernel
  have hdecode : JwsVerifier.decodeHeader listHeaderPackages ['W', '1', '0'] = .ok (.list []) := by
    have hbytes : Base64.urlsafeB64decode (Base64.restorePadding ['W', '1', '0']) =
        .ok (encodeUtf8 "[]") := by rfl
    have hlookup : [("[]", PyValue.list [])].lookup "[]" = some (.list []) := by simp
    rw [JwsVerifier.decodeHeader, hbytes, listHeaderPackages, Sample.runtime_jsonLoads]
    exact congrArg orValueError (Sample.loads_inl hlookup)
  have hheader : JwsVerifier.HeaderNotObject listHeaderPackages listHeaderKnock.jws := by
    refine ⟨by rw [hparts]; rfl, .list [], ?_, rfl⟩
    rw [hparts]
    exact hdecode
  have htrusted : (Sample.store [("node-a", 1)]).isTrusted listHeaderPackages
      listHeaderKnock.nodeId (Sample.key 1) = true :=
    Sample.isTrusted_key (by decide +kernel)
  have hnonce : listHeaderKnock.nonce =
      String.ofList (Base64.b64encode (encodeUtf8 "sample nonce 001")) := by decide +kernel
  have hkeyBytes : Base64.b64decode listHeaderKnock.publicKey.toList = .ok (Sample.key 1) := by
    rw [listHeaderKnock, Sample.knock, String.toList_ofList, Base64.b64decode_b64encode]
  have hnonceBytes : Base64.b64decode listHeaderKnock.nonce.toList =
      .ok (encodeUtf8 "sample nonce 001") := by
    rw [hnonce, String.toList_ofList, Base64.b64decode_b64encode]
  refine ⟨⟨?_, ?_, ?_⟩, fun cei ambient => not_failClosed_of_escapes
    ⟨Sample.key 1, Sample.decodePublicKey_key 1, htrusted, hheader⟩, fun h => ?_⟩
  · exact NhpKnkParser.validateSchema_eq_ok.2 ⟨Sample.key 1, hkeyBytes, Sample.length_key 1⟩
  · exact NhpKnkParser.validateNonce_eq_ok.2
      ⟨_, hnonceBytes, by decide +kernel, by decide +kernel⟩
  · exact NhpKnkParser.validateTimestamp_eq_ok.2 ⟨by decide +kernel, by decide +kernel⟩
  · exact (JwsVerifier.verifyCompact_raises_iff _ _).1 h hheader

end PolicyDecisionEngine

end Policy

end NhpSba
