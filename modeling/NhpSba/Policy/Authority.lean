import NhpSba.Policy.Decision
import NhpSba.Knock.Accepted
/-!
# Policy — where a grant's authority comes from

A knock says what it wants twice: in its signed claims and in clear. The
validator compares the two only in the node id, the timestamp and the
nonce, and the engine reads the rest in clear: the EDNS the gates judge,
the action class it grants, and, as the session's node id, the target
service. So the grant is the signed one exactly where the cleartext says
what the claims say (`authority_iff`).
-/

namespace NhpSba

namespace Policy

open Knock Fallible MAMASafetyGate NhpJwtValidator

/-- Two payloads agree in the token and in all it is checked against. -/
structure SameToken (p q : NhpKnkPayload) : Prop where
  jws : p.jws = q.jws
  publicKey : p.publicKey = q.publicKey
  nodeId : p.nodeId = q.nodeId
  timestamp : p.timestamp = q.timestamp
  nonce : p.nonce = q.nonce

/-- A claim inside a claim: `claims[outer][inner]`. -/
def nestedClaim (claims : Dict) (outer inner : String) : PyValue :=
  match (claims.get outer).dict? with
  | some items => items.get inner
  | none => .none

/-- The EDNS the token signs. -/
def signedEdns (claims : Dict) : PyValue := nestedClaim claims "nhp_sba_context" "current_edns"

/-- The action class the token signs. -/
def signedActionClass (claims : Dict) : PyValue :=
  nestedClaim claims "nhp_sba_intent" "action_class"

/-- What a result grants: the decision, the capabilities, and the session's
node id. -/
def grant (result : PolicyResult) : PolicyDecision × Option (List String) × Option String :=
  (result.decision, result.sessionParams.map SessionParams.grantedCapabilities,
    result.sessionParams.map SessionParams.nodeId)

namespace PolicyDecisionEngine

variable {K J : Type} (R : Runtime K J) (config : MAMAConfig) (v : NhpJwtValidator K)
  (cei : CEIMetrics) (ambient : Ambient) (p q : NhpKnkPayload)

/-- Whenever a payload is approved, the EDNS the gates judged, the
capabilities granted and the session's node id are those of the verified
claims. -/
def ApprovesSigned : Prop :=
  ∀ result, (call (evaluate R config p cei ambient) v).1 = .ok result →
    result.decision = .approve →
    ∃ claims params, result.validatedClaims = some claims ∧ result.sessionParams = some params ∧
      (signedEdns claims).eqFloat p.nhpSbaContext.currentEdns = true ∧
      (∀ capability ∈ params.grantedCapabilities, signedActionClass claims = .str capability) ∧
      claims.get "node_id" = .str params.nodeId

/-- **Authority comes from the token**: payloads with one token are granted
the same, and what its claims say. -/
def Authority : Prop :=
  (call (evaluate R config p cei ambient) v).1.map grant =
      (call (evaluate R config q cei ambient) v).1.map grant ∧
    ApprovesSigned R config v cei ambient p ∧ ApprovesSigned R config v cei ambient q

/-- The cleartext says what the claims say, and names the node itself as
the target. -/
def Consistent (claims : Dict) : Prop :=
  (signedEdns claims).eqFloat p.nhpSbaContext.currentEdns = true ∧
    signedActionClass claims = .str p.nhpSbaIntent.actionClass ∧
    p.nhpSbaIntent.targetService = p.nodeId

variable {R config v cei ambient p q}

/-- The checks read nothing else of a payload. -/
theorem checks_congr (h : SameToken p q) (store : TrustStore K) (now : ℚ) :
    checks R store p now = checks R store q now := by
  unfold checks crossValidate
  rw [h.jws, h.publicKey, h.nodeId, h.timestamp, h.nonce]

theorem validate_congr (h : SameToken p q) :
    call (validate R p ambient.clock) v = call (validate R q ambient.clock) v := by
  rw [call_validate, call_validate, checks_congr h, h.nonce]

/-- A knock that is not accepted is granted nothing, whatever it says in
clear. -/
theorem authority_of_not_accepted (h : SameToken p q)
    (hrefused : ∀ claims, (call (validate R p ambient.clock) v).1 ≠ .ok claims) :
    Authority R config v cei ambient p q := by
  -- whichever knock it comes with, a refused token approves nothing
  have hnone : ∀ r, r = p ∨ r = q → ApprovesSigned R config v cei ambient r := by
    intro r hr result hresult happrove
    have hvalid : (call (validate R r ambient.clock) v).1 =
        (call (validate R p ambient.clock) v).1 := by
      rcases hr with rfl | rfl
      · rfl
      · rw [validate_congr h]
    rw [call_evaluate, hvalid] at hresult
    cases hout : (call (validate R p ambient.clock) v).1 with
    | ok claims => exact absurd hout (hrefused claims)
    | error exc =>
      rw [hout] at hresult
      cases exc with
      | jwtValidationError message reason =>
        obtain rfl := Except.ok.inj hresult
        cases happrove
      | _ => cases hresult
  refine ⟨?_, hnone p (Or.inl rfl), hnone q (Or.inr rfl)⟩
  rw [call_evaluate, call_evaluate, ← validate_congr h]
  cases hout : (call (validate R p ambient.clock) v).1 with
  | ok claims => exact absurd hout (hrefused claims)
  | error exc => cases exc <;> rfl

/-- The result for an accepted knock. -/
theorem evaluate_of_accepted {claims : Dict}
    (h : (call (validate R p ambient.clock) v).1 = .ok claims) :
    (call (evaluate R config p cei ambient) v).1 = .ok (judged config p cei ambient claims) := by
  rw [call_evaluate, h]

theorem grant_of_allPass {claims : Dict} (h : AllPass config p.nhpSbaContext.currentEdns cei) :
    grant (judged config p cei ambient claims) =
      (.approve, some [p.nhpSbaIntent.actionClass], some p.nhpSbaIntent.targetService) := by
  obtain ⟨happrove, -, params, hparams, hnode, hcaps⟩ :=
    judged_of_allPass ambient claims h
  rw [grant, happrove, hparams, Option.map_some, Option.map_some, hnode, hcaps]

theorem grant_of_not_allPass {claims : Dict}
    (h : ¬ AllPass config p.nhpSbaContext.currentEdns cei) :
    grant (judged config p cei ambient claims) = (.reject, none, none) := by
  obtain ⟨hreject, hparams, -⟩ := judged_of_not_allPass ambient claims h
  rw [grant, hreject, hparams]
  rfl

/-- An approved knock is granted the signed exactly where its cleartext is
consistent. -/
theorem approvesSigned_of_allPass {claims : Dict}
    (hvalid : (call (validate R p ambient.clock) v).1 = .ok claims)
    (h : AllPass config p.nhpSbaContext.currentEdns cei) :
    ApprovesSigned R config v cei ambient p ↔ Consistent p claims := by
  obtain ⟨happrove, hclaims, params, hparams, hnode, hcaps⟩ :=
    judged_of_allPass ambient claims h
  have hresult : (call (evaluate R config p cei ambient) v).1 =
      .ok (judged config p cei ambient claims) := evaluate_of_accepted hvalid
  -- cross-validation has the signed node id equal to the cleartext one
  have hsigned : claims.get "node_id" = .str p.nodeId := by
    obtain ⟨-, -, -, -, -, -, -, -, hcross⟩ := checks_eq_ok.1 (call_validate_eq_ok.1 hvalid).1
    exact (crossValidate_eq_ok.1 hcross).1
  constructor
  · intro happroves
    obtain ⟨claims', params', hclaims', hparams', hedns, haction, hid⟩ :=
      happroves _ hresult happrove
    obtain rfl : claims' = claims := Option.some.inj (hclaims'.symm.trans hclaims)
    obtain rfl : params' = params := Option.some.inj (hparams'.symm.trans hparams)
    refine ⟨hedns, haction _ (by rw [hcaps]; exact List.mem_singleton_self _), ?_⟩
    rw [hsigned, hnode, PyValue.str.injEq] at hid
    exact hid.symm
  · rintro ⟨hedns, haction, htarget⟩ result hres -
    obtain rfl : judged config p cei ambient claims = result :=
      Except.ok.inj (hresult.symm.trans hres)
    refine ⟨claims, params, hclaims, hparams, hedns, fun capability hmem => ?_, ?_⟩
    · rw [hcaps] at hmem
      rw [List.mem_singleton.1 hmem]
      exact haction
    · rw [hnode, htarget, hsigned]

theorem approvesSigned_of_not_allPass {claims : Dict}
    (hvalid : (call (validate R p ambient.clock) v).1 = .ok claims)
    (h : ¬ AllPass config p.nhpSbaContext.currentEdns cei) :
    ApprovesSigned R config v cei ambient p := by
  intro result hresult happrove
  have hreject := (judged_of_not_allPass ambient claims h).1
  rw [evaluate_of_accepted hvalid] at hresult
  obtain rfl := Except.ok.inj hresult
  rw [hreject] at happrove
  cases happrove

/-- What the gates and the cleartext make of an accepted token. -/
theorem authority_of_accepted {claims : Dict} (h : SameToken p q)
    (hp : (call (validate R p ambient.clock) v).1 = .ok claims) :
    Authority R config v cei ambient p q ↔
      (¬ AllPass config p.nhpSbaContext.currentEdns cei ∧
        ¬ AllPass config q.nhpSbaContext.currentEdns cei) ∨
      (AllPass config p.nhpSbaContext.currentEdns cei ∧
        AllPass config q.nhpSbaContext.currentEdns cei ∧
        Consistent p claims ∧ Consistent q claims) := by
  have hq : (call (validate R q ambient.clock) v).1 = .ok claims := by rw [← validate_congr h, hp]
  unfold Authority
  rw [evaluate_of_accepted hp, evaluate_of_accepted hq]
  by_cases hpassp : AllPass config p.nhpSbaContext.currentEdns cei
  · by_cases hpassq : AllPass config q.nhpSbaContext.currentEdns cei
    · rw [approvesSigned_of_allPass hp hpassp, approvesSigned_of_allPass hq hpassq]
      refine ⟨fun hauth => Or.inr ⟨hpassp, hpassq, hauth.2⟩, ?_⟩
      rintro (⟨hno, -⟩ | ⟨-, -, hcp, hcq⟩)
      · exact absurd hpassp hno
      · -- both grants are the signed one
        have haction : p.nhpSbaIntent.actionClass = q.nhpSbaIntent.actionClass := by
          have hboth := hcp.2.1.symm.trans hcq.2.1
          rwa [PyValue.str.injEq] at hboth
        refine ⟨?_, hcp, hcq⟩
        simp only [Except.map, grant_of_allPass hpassp, grant_of_allPass hpassq, haction,
          hcp.2.2, hcq.2.2, h.nodeId]
    · refine ⟨fun hauth => ?_, fun hcond => ?_⟩
      · have hgrant := hauth.1
        simp [Except.map, grant_of_allPass hpassp, grant_of_not_allPass hpassq] at hgrant
      · rcases hcond with ⟨hno, -⟩ | ⟨-, hyes, -⟩
        · exact absurd hpassp hno
        · exact absurd hyes hpassq
  · by_cases hpassq : AllPass config q.nhpSbaContext.currentEdns cei
    · refine ⟨fun hauth => ?_, fun hcond => ?_⟩
      · have hgrant := hauth.1
        simp [Except.map, grant_of_not_allPass hpassp, grant_of_allPass hpassq] at hgrant
      · rcases hcond with ⟨-, hno⟩ | ⟨hyes, -⟩
        · exact absurd hpassq hno
        · exact absurd hyes hpassp
    · refine ⟨fun _ => Or.inl ⟨hpassp, hpassq⟩, fun _ => ⟨?_, ?_, ?_⟩⟩
      · simp only [Except.map, grant_of_not_allPass hpassp, grant_of_not_allPass hpassq]
      · exact approvesSigned_of_not_allPass hp hpassp
      · exact approvesSigned_of_not_allPass hq hpassq

/-- **Where authority comes from the token.** Of two payloads with one
token, both are granted the same and what is signed exactly where the token
is refused, or the gates reject both, or they approve both and both say in
clear what the claims say. -/
theorem authority_iff (h : SameToken p q) :
    Authority R config v cei ambient p q ↔
      ∀ claims, checks R v.trustStore p ambient.clock.expiration = .ok claims →
        p.nonce ∉ v.seenNonces →
        (¬ AllPass config p.nhpSbaContext.currentEdns cei ∧
          ¬ AllPass config q.nhpSbaContext.currentEdns cei) ∨
        (AllPass config p.nhpSbaContext.currentEdns cei ∧
          AllPass config q.nhpSbaContext.currentEdns cei ∧
          Consistent p claims ∧ Consistent q claims) := by
  constructor
  · intro hauth claims hchecks hnew
    exact (authority_of_accepted h (call_validate_eq_ok.2 ⟨hchecks, hnew⟩)).1 hauth
  · intro hcond
    by_cases haccepted : ∃ claims, (call (validate R p ambient.clock) v).1 = .ok claims
    · obtain ⟨claims, hp⟩ := haccepted
      obtain ⟨hchecks, hnew⟩ := call_validate_eq_ok.1 hp
      exact (authority_of_accepted h hp).2 (hcond claims hchecks hnew)
    · exact authority_of_not_accepted h fun claims hp => haccepted ⟨claims, hp⟩

/-- Metrics that pass every gate where no demand goes unserved. -/
def bestMetrics : CEIMetrics where
  capabilityEffectivenessIndex := 1
  projectedDemandNotServed := 0
  throughputImpact := 0
  slaPenaltyExposure := 0
  capabilityEffectivenessIndex_mem := unitRange_one
  projectedDemandNotServed_mem := unitRange_zero
  throughputImpact_mem := unitRange_zero
  slaPenaltyExposure_mem := unitRange_zero

/-- A request at the time the sample knocks are signed. -/
def sampleAmbient : Ambient := ⟨⟨1700000001, 1700000001⟩, 1700000001, "session"⟩

/-- The knock of the node `"upf-core"`, which signs an EDNS and asks for
itself. -/
def ownKnock (edns : ℤ) : NhpKnkPayload :=
  Sample.knock "upf-core" "c2FtcGxlIG5vbmNlIDAwMQ==" 1 1700000000 edns
    Sample.targetService_length Sample.nonce_length Sample.issued_pos

/-- The packages, for that knock. -/
def ownPackages (edns : ℤ) : Runtime Bytes String :=
  Sample.packages [Sample.claims "upf-core" "c2FtcGxlIG5vbmNlIDAwMQ==" 1700000000 edns]

/-- A validator that trusts the node. -/
def ownValidator : NhpJwtValidator Bytes := .new (Sample.store [("upf-core", 1)])

theorem checks_ownKnock (edns : ℤ) (hdistinct : ((Sample.header ::
      [Sample.claims "upf-core" "c2FtcGxlIG5vbmNlIDAwMQ==" 1700000000 edns]).map
        (Sample.dumps 2)).Nodup) :
    checks (ownPackages edns) ownValidator.trustStore (ownKnock edns)
      sampleAmbient.clock.expiration =
        .ok (Sample.claimItems "upf-core" "c2FtcGxlIG5vbmNlIDAwMQ==" 1700000000 edns) := by
  have htrust : ownValidator.trustStore.keyBytesMap.lookup "upf-core" = some (Sample.key 1) := by
    decide +kernel
  exact Sample.checks_knock hdistinct List.mem_cons_self htrust (by decide +kernel)
    (by decide +kernel)

/-- Where the cleartext is consistent, more alarms in it change nothing. -/
theorem ownKnock_authority :
    Authority (ownPackages 0) .default ownValidator bestMetrics sampleAmbient (ownKnock 0)
      { ownKnock 0 with
        nhpSbaContext := { Sample.context with activeAlarms := 3, activeAlarms_nonneg := by decide } } := by
  refine (authority_iff ⟨rfl, rfl, rfl, rfl, rfl⟩).2 fun claims hchecks _ => ?_
  rw [checks_ownKnock 0 (by decide +kernel)] at hchecks
  obtain rfl := Except.ok.inj hchecks
  refine Or.inr ⟨by decide +kernel, by decide +kernel, ⟨?_, rfl, rfl⟩, ⟨?_, rfl, rfl⟩⟩
  · decide +kernel
  · decide +kernel

/-- The knock with another action class in clear than the signed one. -/
def escalated : NhpKnkPayload :=
  { ownKnock 1 with
    nhpSbaIntent := { Sample.intent with
      actionClass := "provision", actionClass_mem := by decide +kernel } }

/-- The knock with the signed EDNS in clear. -/
def honest : NhpKnkPayload :=
  { ownKnock 1 with
    nhpSbaContext := { Sample.context with
      currentEdns := 1, currentEdns_mem := unitRange_one } }

/-- **One token, two decisions.** The token signs an EDNS of 1, which the
gates reject, and the action class `"monitor"`; with an EDNS of 0 in clear
it is approved for `"provision"`. -/
theorem cleartext_decides :
    SameToken escalated honest ∧
      ¬ Authority (ownPackages 1) .default ownValidator bestMetrics sampleAmbient
        escalated honest ∧
      (call (evaluate (ownPackages 1) .default escalated bestMetrics sampleAmbient)
        ownValidator).1.map grant = .ok (.approve, some ["provision"], some "upf-core") ∧
      (call (evaluate (ownPackages 1) .default honest bestMetrics sampleAmbient)
        ownValidator).1.map grant = .ok (.reject, none, none) := by
  have hsame : SameToken escalated honest := ⟨rfl, rfl, rfl, rfl, rfl⟩
  have hvalid : ∀ p, SameToken p (ownKnock 1) →
      (call (validate (ownPackages 1) p sampleAmbient.clock) ownValidator).1 =
        .ok (Sample.claimItems "upf-core" "c2FtcGxlIG5vbmNlIDAwMQ==" 1700000000 1) := by
    intro p hp
    refine call_validate_eq_ok.2 ⟨?_, List.not_mem_nil⟩
    rw [checks_congr hp, checks_ownKnock 1 (by decide +kernel)]
  have happrove : (call (evaluate (ownPackages 1) .default escalated bestMetrics sampleAmbient)
      ownValidator).1.map grant = .ok (.approve, some ["provision"], some "upf-core") := by
    rw [evaluate_of_accepted (hvalid escalated ⟨rfl, rfl, rfl, rfl, rfl⟩)]
    exact congrArg Except.ok (grant_of_allPass (by decide +kernel))
  have hreject : (call (evaluate (ownPackages 1) .default honest bestMetrics sampleAmbient)
      ownValidator).1.map grant = .ok (.reject, none, none) := by
    rw [evaluate_of_accepted (hvalid honest ⟨rfl, rfl, rfl, rfl, rfl⟩)]
    exact congrArg Except.ok (grant_of_not_allPass (by decide +kernel))
  -- one token would have to mean one grant
  refine ⟨hsame, fun hauth => ?_, happrove, hreject⟩
  have hgrant := hauth.1
  rw [happrove, hreject] at hgrant
  cases hgrant

end PolicyDecisionEngine

end Policy

end NhpSba
