import NhpSba.Api.Service
import NhpSba.Knock.Agent
import NhpSba.Policy.Authority
/-!
# What the service answers

Three laws of every run of the service, whatever comes and in whatever
order it is answered. A submission gets the answer that it is due by the
run before it (`answers_exact`). A signer finds that approvals and
signatures agree one for one (`approvals_agree`). And the validator finds
that one client's submissions come no faster than the limiter allows
(`answers_le`).
-/

namespace NhpSba

namespace Api

namespace Service

open Knock Policy Fallible Machine RateLimitMiddleware MAMASafetyGate

variable {K J : Type} {C : ServiceConfig K J} {ts : List (Step K)} {service : Service K}

/-! ## The answers -/

/-- What a knock needs for an approval: it passes the checks in the trust
store as it stands, its nonce is not one that the past has in the table,
and the gates pass. -/
structure Due (C : ServiceConfig K J) (past : List (Step K)) (service : Service K)
    (submission : Submission) (ambient : RequestAmbient) (payload : NhpKnkPayload) : Prop where
  checked : succeeded (NhpJwtValidator.checks C.packages.runtime service.validator.trustStore
    payload ambient.evaluation.clock.expiration) = true
  fresh : ∀ t, ¬ NhpJwtValidator.Kept (acceptances C past) payload.nonce t
  passes : AllPass C.gates payload.nhpSbaContext.currentEdns submission.body.ceiMetrics

variable {submission : Submission} {ambient : RequestAmbient} {payload : NhpKnkPayload}

theorem ClockForward.left {pre post : List (Step K)} (h : ClockForward (pre ++ post)) :
    ClockForward pre := by
  unfold ClockForward at h
  rw [List.flatMap_append] at h
  exact (List.pairwise_append.1 h).1

/-- What is due is what the validator accepts and the gates pass. -/
theorem due_iff (hrun : (system C).Run ts service) (hclock : ClockForward ts) :
    Due C ts service submission ambient payload ↔
      succeeded (call (NhpJwtValidator.validate C.packages.runtime payload
          ambient.evaluation.clock) service.validator).1 = true ∧
        AllPass C.gates payload.nhpSbaContext.currentEdns submission.body.ceiMetrics := by
  have htable := mem_seenNonces_iff hrun hclock payload.nonce
  simp only [succeeded_iff, NhpJwtValidator.call_validate_eq_ok, exists_and_right]
  constructor
  · rintro ⟨hchecked, hfresh, hpasses⟩
    have hnew : payload.nonce ∉ service.validator.seenNonces := fun hmem => by
      obtain ⟨t, ht⟩ := htable.1 hmem
      exact hfresh t ht
    exact ⟨⟨succeeded_iff.1 hchecked, hnew⟩, hpasses⟩
  · rintro ⟨⟨hchecked, hnew⟩, hpasses⟩
    exact ⟨succeeded_iff.2 hchecked, fun t ht => hnew (htable.2 ⟨t, ht⟩), hpasses⟩

theorem answer_answers {t : Step K} (h : t.2.1 = .answers submission ambient) :
    answer C t =
      some (call (submitKnk C.packages C.gates submission.body ambient) t.1.validator).1 := by
  obtain ⟨service, event, service'⟩ := t
  obtain rfl := h
  rfl

/-! ## A request that comes -/

/-- One that the limiter lets through waits behind the others. -/
theorem next_of_forwarded {request : Request}
    (h : verdict C service.requestCounts request = true) (body : KnkSubmitRequest) :
    (system C).Next (.comes request (some body)) service {
      service with
      requestCounts := (dispatch C.maxRequests C.windowSeconds service.requestCounts request).2
      waiting := service.waiting ++ [⟨request, body⟩] } := by
  show _ = _
  rw [admitted, if_pos h]
  rfl

/-- One that it refuses leaves only the limiter's lists. -/
theorem next_of_refused {request : Request}
    (h : verdict C service.requestCounts request = false) (body : Option KnkSubmitRequest) :
    (system C).Next (.comes request body) service {
      service with
      requestCounts :=
        (dispatch C.maxRequests C.windowSeconds service.requestCounts request).2 } := by
  have hrefused : ¬verdict C service.requestCounts request = true := Bool.eq_false_iff.1 h
  show _ = _
  rw [admitted, if_neg hrefused, Option.toList_none, List.append_nil]

/-! ## A knock that is sent twice -/

section Sample

open PolicyDecisionEngine Knock.Sample

/-- `orjson.dumps`, of values without a `float`. -/
def orjson : ℕ → PyValue → String := Sample.write "," ":" fun _ => "null"

/-- The claims of the knock. -/
def sentClaims : PyValue := Sample.claims "upf-core" "c2FtcGxlIG5vbmNlIDAwMQ==" 1700000000 0

def sentKnock : Dict :=
  [("version", .str "1.0"), ("node_id", .str "upf-core"), ("timestamp", .int 1700000000),
    ("nonce", .str "c2FtcGxlIG5vbmNlIDAwMQ=="),
    ("public_key", .str (String.ofList (Base64.b64encode (Sample.key 1)))),
    ("jws", .str (Sample.token (Sample.dumps 2 Sample.header) (Sample.dumps 2 sentClaims) 1)),
    ("nhp_sba_intent", .dict [("action_class", .str "monitor"), ("target_service", .str "upf-core"),
      ("impact_scope", .dict [("max_subscribers", .int 100), ("max_edns_delta", .int 0),
        ("domain", .str "ran")]), ("temporal_bounds", .dict [])]),
    ("nhp_sba_context", .dict [("current_edns", .int 0), ("current_cei", .int 90),
      ("active_alarms", .int 0), ("ongoing_remediations", .int 0),
      ("agent_confidence_score", .int 1)]),
    ("nhp_sba_sat_fragment", .str "fragment")]

def known : List (String × PyValue) :=
  ([Sample.header, sentClaims].map fun v => (Sample.dumps 2 v, v)) ++
    [(orjson 3 (.dict sentKnock), .dict sentKnock)]

/-- The three texts start differently. -/
theorem known_lookup :
    known.lookup (Sample.dumps 2 Sample.header) = some Sample.header ∧
      known.lookup (Sample.dumps 2 sentClaims) = some sentClaims ∧
      known.lookup (orjson 3 (.dict sentKnock)) = some (.dict sentKnock) := by
  have hkey := Sample.write_key ", " ": " fun _ => "null"
  obtain ⟨headerTail, hheader⟩ := hkey 1 "alg" (.str "EdDSA") [("typ", .str "JWS")]
  obtain ⟨claimsTail, hclaims⟩ := hkey 1 "iss" (.str "nhp-sba-agent")
    (Sample.claimItems "upf-core" "c2FtcGxlIG5vbmNlIDAwMQ==" 1700000000 0).tail
  obtain ⟨knockTail, hknock⟩ :=
    Sample.write_key "," ":" (fun _ => "null") 2 "version" (.str "1.0") sentKnock.tail
  have hne : ∀ {text text' : String} {s t : List Char}, text.toList = s → text'.toList = t →
      s ≠ t → (text == text') = false := by
    intro text text' s t hs ht hst
    refine beq_eq_false_iff_ne.2 fun heq => hst ?_
    rw [← hs, ← ht, heq]
  have h₁ : (Sample.dumps 2 sentClaims == Sample.dumps 2 Sample.header) = false :=
    hne hclaims hheader (by simp)
  have h₂ : (orjson 3 (.dict sentKnock) == Sample.dumps 2 Sample.header) = false :=
    hne hknock hheader (by simp)
  have h₃ : (orjson 3 (.dict sentKnock) == Sample.dumps 2 sentClaims) = false :=
    hne hknock hclaims (by simp)
  refine ⟨List.lookup_cons_self, ?_, ?_⟩
  · rw [known, List.map_cons, List.cons_append, List.lookup_cons, h₁]
    exact List.lookup_cons_self
  · rw [known, List.map_cons, List.cons_append, List.lookup_cons, h₂, List.map_cons,
      List.cons_append, List.lookup_cons, h₃]
    exact List.lookup_cons_self

theorem modelValidate_sent :
    NhpKnkPayload.modelValidate agentSchema (.dict sentKnock) = some (ownKnock 0) := by
  have hscope : ImpactScope.modelValidate agentSchema (.dict [("max_subscribers", .int 100),
      ("max_edns_delta", .int 0), ("domain", .str "ran")]) = some Sample.intent.impactScope :=
    ImpactScope.modelValidate_eq_some.2 ⟨_, rfl, rfl, rfl, rfl⟩
  have hintent : NhpSbaIntent.modelValidate agentSchema (.dict [("action_class", .str "monitor"),
      ("target_service", .str "upf-core"), ("impact_scope", .dict [("max_subscribers", .int 100),
        ("max_edns_delta", .int 0), ("domain", .str "ran")]), ("temporal_bounds", .dict [])]) =
      some Sample.intent :=
    NhpSbaIntent.modelValidate_eq_some.2 ⟨_, rfl, rfl, rfl, hscope, rfl⟩
  have hcontext : NhpSbaContext.modelValidate agentSchema (.dict [("current_edns", .int 0),
      ("current_cei", .int 90), ("active_alarms", .int 0), ("ongoing_remediations", .int 0),
      ("agent_confidence_score", .int 1)]) = some Sample.context :=
    NhpSbaContext.modelValidate_eq_some.2 ⟨_, rfl, rfl, rfl, rfl, rfl, rfl⟩
  exact NhpKnkPayload.modelValidate_eq_some.2
    ⟨_, rfl, rfl, rfl, rfl, rfl, rfl, rfl, hintent, hcontext, rfl⟩

/-- The packages of the run. -/
def sentPackages : Packages Bytes String where
  runtime := Sample.runtime known
  schema := agentSchema
  orjsonDumps d := .ok (encodeUtf8 (orjson 3 (.dict d)))

/-- The knock is read within five minutes. -/
theorem readKnock_sent {now : ℚ} (hfrom : 1700000000 ≤ now) (hto : now ≤ 1700000300) :
    readKnock sentPackages ⟨sentKnock, bestMetrics⟩ now = .ok (ownKnock 0) := by
  have hloads : (Sample.runtime known).jsonLoads (.inl (encodeUtf8 (orjson 3 (.dict sentKnock)))) =
      .ok (.dict sentKnock) := by
    rw [Sample.runtime_jsonLoads]
    exact Sample.loads_inl known_lookup.2.2
  have hnonce : (ownKnock 0).nonce =
      String.ofList (Base64.b64encode (encodeUtf8 "sample nonce 001")) := by decide +kernel
  have hwritten : sentPackages.orjsonDumps sentKnock =
      .ok (encodeUtf8 (orjson 3 (.dict sentKnock))) := by rw [sentPackages]
  rw [readKnock, hwritten]
  refine bind_eq_ok.2 ⟨_, rfl, NhpKnkParser.fullValidate_eq_ok.2 ⟨?_, ?_, ?_, ?_⟩⟩
  · exact NhpKnkParser.parse_eq_ok.2 ⟨_, hloads, modelValidate_sent⟩
  · refine NhpKnkParser.validateSchema_eq_ok.2 ⟨Sample.key 1, ?_, Sample.length_key 1⟩
    show Base64.b64decode (String.ofList (Base64.b64encode (Sample.key 1))).toList = _
    rw [String.toList_ofList, Base64.b64decode_b64encode]
  · refine NhpKnkParser.validateNonce_eq_ok.2
      ⟨encodeUtf8 "sample nonce 001", ?_, by decide +kernel, by decide +kernel⟩
    rw [hnonce, String.toList_ofList, Base64.b64decode_b64encode]
  · refine NhpKnkParser.validateTimestamp_eq_ok.2 ⟨by decide +kernel, ?_⟩
    show |now - ((1700000000 : ℤ) : ℚ)| ≤ 300
    rw [abs_le]
    push_cast
    constructor <;> linarith

/-- Its token opens to its claims. -/
theorem verifyJwsSignature_sent : NhpJwtValidator.verifyJwsSignature sentPackages.runtime
    (ownKnock 0).jws (Sample.key 1) =
      .ok (claimItems "upf-core" "c2FtcGxlIG5vbmNlIDAwMQ==" 1700000000 0) := by
  have hopen : JwsVerifier.verifyCompact (Sample.runtime known) (token (dumps 2 header)
      (dumps 2 sentClaims) 1) (Sample.key 1) =
        .ok (claimItems "upf-core" "c2FtcGxlIG5vbmNlIDAwMQ==" 1700000000 0) :=
    verifyCompact_token known_lookup.1 rfl known_lookup.2.1
  show NhpJwtValidator.verifyJwsSignature (Sample.runtime known) (token (dumps 2 header)
    (dumps 2 sentClaims) 1) (Sample.key 1) = _
  rw [NhpJwtValidator.verifyJwsSignature, hopen]

/-- And it passes the checks in the minute after it was signed. -/
theorem checks_sent {now : ℚ} (hfrom : 1700000000 ≤ now) (hto : now ≤ 1700000060) :
    NhpJwtValidator.checks sentPackages.runtime ownValidator.trustStore (ownKnock 0) now =
      .ok (claimItems "upf-core" "c2FtcGxlIG5vbmNlIDAwMQ==" 1700000000 0) :=
  checks_of_texts known_lookup.1 known_lookup.2.1 (by decide +kernel)
    (by push_cast; linarith) (by push_cast; linarith)

/-- The service of the run. -/
def sentConfig : ServiceConfig Bytes String where
  packages := sentPackages
  gates := .default
  maxRequests := 100
  windowSeconds := 60

/-- The knock, sent at a time. -/
def sent (time : ℚ) : Submission := ⟨⟨some "10.0.0.7", time⟩, ⟨sentKnock, bestMetrics⟩⟩

/-- What the answer to it draws, at a time. -/
def sentAmbient (time : ℚ) : RequestAmbient where
  parsing := time
  evaluation := ⟨⟨time, time⟩, time, "session"⟩
  uuid := "0f8fad5b-d9cb-469f-a165-70867728950e"

/-- The service when it starts, when the knock has come, and when it has
come again. -/
def sentStart : Service Bytes := ⟨∅, ownValidator, []⟩

def sentOnce : Service Bytes where
  requestCounts := (dispatch 100 60 ∅ (sent 1700000001).request).2
  validator := ownValidator
  waiting := [sent 1700000001]

def sentTwice : Service Bytes where
  requestCounts := (dispatch 100 60 sentOnce.requestCounts (sent 1700000002).request).2
  validator := ownValidator
  waiting := [sent 1700000001, sent 1700000002]

/-- The later one is answered first. -/
def answeredOnce : Service Bytes :=
  { sentTwice with
    validator := (call (submitKnk sentPackages .default (sent 1700000002).body
      (sentAmbient 1700000003)) ownValidator).2
    waiting := [sent 1700000001] }

def answeredTwice : Service Bytes :=
  { answeredOnce with
    validator := (call (submitKnk sentPackages .default (sent 1700000001).body
      (sentAmbient 1700000004)) answeredOnce.validator).2
    waiting := [] }

/-- The knock comes twice, and both are answered. -/
def resent : List (Step Bytes) :=
  [(sentStart, .comes (sent 1700000001).request (some (sent 1700000001).body), sentOnce),
    (sentOnce, .comes (sent 1700000002).request (some (sent 1700000002).body), sentTwice),
    (sentTwice, .answers (sent 1700000002) (sentAmbient 1700000003), answeredOnce),
    (answeredOnce, .answers (sent 1700000001) (sentAmbient 1700000004), answeredTwice)]

theorem resent_run : (system sentConfig).Run resent answeredTwice := by
  have hstart : (system sentConfig).Init sentStart := ⟨ownValidator.trustStore, rfl⟩
  have hfirst : (system sentConfig).Next
      (.comes (sent 1700000001).request (some (sent 1700000001).body)) sentStart sentOnce := by
    have hverdict :
        verdict sentConfig sentStart.requestCounts (sent 1700000001).request = true := by
      decide +kernel
    exact next_of_forwarded hverdict (sent 1700000001).body
  have hsecond : (system sentConfig).Next
      (.comes (sent 1700000002).request (some (sent 1700000002).body)) sentOnce sentTwice := by
    have hverdict : verdict sentConfig sentOnce.requestCounts (sent 1700000002).request = true := by
      decide +kernel
    exact next_of_forwarded hverdict (sent 1700000002).body
  have hthird : (system sentConfig).Next (.answers (sent 1700000002) (sentAmbient 1700000003))
      sentTwice answeredOnce := ⟨[sent 1700000001], [], rfl, rfl⟩
  have hfourth : (system sentConfig).Next (.answers (sent 1700000001) (sentAmbient 1700000004))
      answeredOnce answeredTwice := ⟨[], [], rfl, rfl⟩
  exact ((((System.Run.init hstart).step _ hfirst).step _ hsecond).step _ hthird).step _ hfourth

theorem resent_clock : ClockForward resent := by
  unfold ClockForward
  decide +kernel

/-- There is one knock in it. -/
theorem payload_of_resent {t : Step Bytes} (ht : t ∈ resent) {k : Arrival Bytes}
    (hknock : knock sentConfig t = some k) : k.payload = ownKnock 0 := by
  have hread : ∀ {time now : ℚ}, 1700000000 ≤ now → now ≤ 1700000300 →
      readKnock sentConfig.packages (sent time).body now = .ok (ownKnock 0) := readKnock_sent
  simp only [resent, List.mem_cons, List.not_mem_nil, or_false] at ht
  rcases ht with rfl | rfl | rfl | rfl
  · cases hknock
  · cases hknock
  · rw [knock, hread (by decide +kernel) (by decide +kernel)] at hknock
    rw [← Option.some.inj hknock]
  · rw [knock, hread (by decide +kernel) (by decide +kernel)] at hknock
    rw [← Option.some.inj hknock]

end Sample

/-! ## Every submission -/

/-- **Every submission gets the answer it is due.** In every run whose
clock does not go back, what was forwarded was answered once or waits; and
a submission is answered 400 where its JSON is not read as a knock, 500
where its token escapes the validator, with an approval and a session where
it is due one, and everywhere else with a rejection and a reason. -/
theorem answers_exact (C : ServiceConfig K J) (hrun : (system C).Run ts service)
    (hclock : ClockForward ts) :
    (ts.filterMap answered ++ service.waiting).Perm (ts.filterMap (forwarded C)) ∧
    ∀ pre t post submission ambient, ts = pre ++ t :: post →
      t.2.1 = .answers submission ambient →
      (∀ exc, readKnock C.packages submission.body ambient.parsing = .error exc →
        answer C t = some (.error ⟨400, exc.message⟩)) ∧
      ∀ payload, readKnock C.packages submission.body ambient.parsing = .ok payload →
        (NhpJwtValidator.Escapes C.packages.runtime t.1.validator.trustStore payload →
          ∃ detail, answer C t = some (.error ⟨500, detail⟩)) ∧
        (Due C pre t.1 submission ambient payload →
          ∃ response, answer C t = some (.ok response) ∧ response.decision = "APPROVE" ∧
            response.sessionId = some ambient.evaluation.sessionId ∧
            response.validatedNodeId = some payload.nhpSbaIntent.targetService) ∧
        (¬ NhpJwtValidator.Escapes C.packages.runtime t.1.validator.trustStore payload →
          ¬ Due C pre t.1 submission ambient payload →
          ∃ response, answer C t = some (.ok response) ∧ response.decision = "REJECT" ∧
            response.sessionId = none ∧
            ∃ reason : RejectionReason, response.reason = some reason.value) := by
  refine ⟨perm_of_run hrun, fun pre t post submission ambient hsplit hevent => ?_⟩
  have hpre := (hrun.split hsplit).1
  have hpast : ClockForward pre := (hsplit ▸ hclock).left
  rw [answer_answers hevent]
  refine ⟨fun exc hread => by rw [call_submitKnk_error hread], fun payload hread => ⟨?_, ?_, ?_⟩⟩
  · intro hescapes
    obtain ⟨detail, hdetail⟩ := answer_of_escapes C.gates hread hescapes
    exact ⟨detail, congrArg some hdetail⟩
  · intro hdue
    obtain ⟨hvalid, hpasses⟩ := (due_iff hpre hpast).1 hdue
    obtain ⟨claims, hclaims⟩ := succeeded_iff.1 hvalid
    obtain ⟨response, hresponse, hrest⟩ := answer_of_allPass hread hclaims hpasses
    exact ⟨response, congrArg some hresponse, hrest⟩
  · intro hescapes hdue
    obtain ⟨response, hresponse, hrest⟩ := answer_of_rejected C.gates hread hescapes
      fun hboth => hdue ((due_iff hpre hpast).2 hboth)
    exact ⟨response, congrArg some hresponse, hrest⟩

/-- The knock that is answered first is approved, though it came last. -/
theorem answers_exact_resent :
    ∃ response, answer sentConfig
        (sentTwice, .answers (sent 1700000002) (sentAmbient 1700000003), answeredOnce)
          = some (.ok response) ∧ response.decision = "APPROVE" ∧
      response.sessionId = some "session" ∧ response.validatedNodeId = some "upf-core" := by
  have hread : readKnock sentPackages (sent 1700000002).body 1700000003 =
      .ok (PolicyDecisionEngine.ownKnock 0) := readKnock_sent (by norm_num) (by norm_num)
  have hchecks := checks_sent (show (1700000000 : ℚ) ≤ 1700000003 by norm_num) (by norm_num)
  have hdue : Due sentConfig (resent.take 2) sentTwice (sent 1700000002) (sentAmbient 1700000003)
      (PolicyDecisionEngine.ownKnock 0) := by
    refine ⟨succeeded_iff.2 ⟨_, hchecks⟩, fun t ht => ?_, by decide +kernel⟩
    -- nothing was accepted before
    cases ht.accepted
  exact (((answers_exact sentConfig resent_run resent_clock).2 (resent.take 2) _ (resent.drop 3) _ _
    rfl rfl).2 _ hread).2.1 hdue

/-! ## What a signer may rely on -/

/-- The knock that a step accepts, as the validator's outcome on it. -/
theorem accepted_eq_some {t : Step K} {k : Arrival K} {claims : Dict} :
    accepted C t = some (k, claims) ↔ met C t = some (k, .ok claims) := by
  unfold accepted
  rcases hmet : met C t with _ | ⟨k', exc | claims'⟩
  · simp
  · simp [Except.toOption]
  · simp [Except.toOption]

/-- **What is approved is accepted.** -/
theorem exists_accepted_of_approves {t : Step K} (h : approves C t = true) :
    ∃ k claims, accepted C t = some (k, claims) := by
  obtain ⟨service, event, service'⟩ := t
  cases event with
  | comes request body => cases h
  | manages trustStore => cases h
  | answers submission ambient =>
    simp only [accepted_eq_some, met, knock]
    unfold approves at h
    rw [answer_answers rfl] at h
    cases hread : readKnock C.packages submission.body ambient.parsing with
    | error exc =>
      rw [call_submitKnk_error hread] at h
      cases h
    | ok payload =>
      cases hvalid : (call (NhpJwtValidator.validate C.packages.runtime payload
          ambient.evaluation.clock) service.validator).1 with
      | ok claims => exact ⟨_, claims, congrArg (fun x => some (_, x)) hvalid⟩
      | error exc =>
        rw [call_submitKnk_ok hread, PolicyDecisionEngine.call_evaluate, hvalid] at h
        cases exc with
        | jwtValidationError message reason =>
          have happrove : "REJECT" = "APPROVE" := of_decide_eq_true h
          exact absurd happrove (by decide)
        | _ => cases h

/-- What the validator accepted passed its checks. -/
theorem checks_of_accepted {t : Step K} {k : Arrival K} {claims : Dict}
    (h : accepted C t = some (k, claims)) :
    NhpJwtValidator.arrivalChecks C.packages.runtime k = .ok claims := by
  obtain ⟨k', -, hk⟩ := Option.map_eq_some_iff.1 (accepted_eq_some.1 h)
  obtain ⟨rfl, houtcome⟩ := Prod.mk.inj hk
  exact (NhpJwtValidator.receive_eq_ok houtcome).1

/-- **No token is accepted at two steps**, where its `exp` is finite. -/
theorem accepted_once (hrun : (system C).Run ts service) (hclock : ClockForward ts) :
    ts.Pairwise fun t u => ∀ k k' claims exp, accepted C t = some (k, claims) →
      NhpJwtValidator.expClaim claims = some (.finite exp) → accepted C u ≠ some (k', claims) := by
  have honce := NhpJwtValidator.claims_accepted_once C.packages.runtime ∅
    (clockForward_knocks C hclock)
  rw [← (seenNonces_of_run hrun).2, List.pairwise_filterMap] at honce
  refine honce.imp fun h k k' claims exp ht hexp hu => ?_
  exact h _ (accepted_eq_some.1 ht) _ (accepted_eq_some.1 hu) claims exp rfl hexp rfl

/-- The knock of a step is under a key. -/
def under (C : ServiceConfig K J) (publicKeyBytes : Bytes) (t : Step K) : Bool :=
  (knock C t).any fun k =>
    (NhpJwtValidator.decodePublicKey k.payload.publicKey).toOption = some publicKeyBytes

/-- The claims are all that the holder of a key has signed: a token of the
run that verifies under the key carries one of them. -/
def SignedBy (C : ServiceConfig K J) (ts : List (Step K)) (publicKeyBytes : Bytes)
    (signed : List Dict) : Prop :=
  ∀ t ∈ ts, ∀ k claims, knock C t = some k →
    NhpJwtValidator.verifyJwsSignature C.packages.runtime k.payload.jws publicKeyBytes
      = .ok claims → claims ∈ signed

/-- An acceptance agrees with claims that were signed. -/
structure Agrees (C : ServiceConfig K J) (publicKeyBytes : Bytes) (signed : List Dict)
    (k : Arrival K) (claims : Dict) : Prop where
  trusted : k.trustStore.isTrusted C.packages.runtime k.payload.nodeId publicKeyBytes = true
  mem : claims ∈ signed
  nodeId : claims.get "node_id" = .str k.payload.nodeId
  timestamp : (claims.get "timestamp").eqInt k.payload.timestamp = true
  nonce : claims.get "nonce" = .str k.payload.nonce

/-- An acceptance under a key agrees with what its holder signed. -/
theorem agrees_of_accepted {publicKeyBytes : Bytes} {signed : List Dict}
    (hsigned : SignedBy C ts publicKeyBytes signed) {t : Step K} (ht : t ∈ ts) {k : Arrival K}
    {claims : Dict} (h : accepted C t = some (k, claims))
    (hunder : under C publicKeyBytes t = true) : Agrees C publicKeyBytes signed k claims := by
  have hknock : knock C t = some k := by
    obtain ⟨k', hk', hk⟩ := Option.map_eq_some_iff.1 (accepted_eq_some.1 h)
    rw [hk', (Prod.mk.inj hk).1]
  obtain ⟨key, hkey, htrust, hjws, -, -, -, -, hcross⟩ :=
    NhpJwtValidator.checks_eq_ok.1 (checks_of_accepted h)
  -- the key that verified the token is the one the step is under
  obtain rfl : key = publicKeyBytes := by
    unfold under at hunder
    rw [hknock, Option.any_some, hkey] at hunder
    exact Option.some.inj (of_decide_eq_true hunder)
  obtain ⟨hnode, htimestamp, hnonce⟩ := NhpJwtValidator.crossValidate_eq_ok.1 hcross
  exact ⟨NhpJwtValidator.verifyTrust_eq_ok.1 htrust, hsigned t ht k claims hknock hjws, hnode,
    htimestamp, hnonce⟩

/-- **Approvals agree with signatures, one for one.** In every run whose
clock does not go back, whatever comes and in whatever order it is
answered: an approval under a key agrees with claims that the key's holder
signed, on the node, the timestamp and the nonce; two approvals agree with
different claims; so there are no more of them than there are claims. -/
theorem approvals_agree (C : ServiceConfig K J) (hrun : (system C).Run ts service)
    (hclock : ClockForward ts) {publicKeyBytes : Bytes} {signed : List Dict}
    (hsigned : SignedBy C ts publicKeyBytes signed)
    (hfinite : ∀ claims ∈ signed, ∃ exp, NhpJwtValidator.expClaim claims = some (.finite exp)) :
    (∀ t ∈ ts, approves C t = true → under C publicKeyBytes t = true →
      ∃ k claims, accepted C t = some (k, claims) ∧ Agrees C publicKeyBytes signed k claims) ∧
    (ts.filter fun t => approves C t && under C publicKeyBytes t).Pairwise (fun t u =>
      (accepted C t).map Prod.snd ≠ (accepted C u).map Prod.snd) ∧
    (ts.filter fun t => approves C t && under C publicKeyBytes t).length ≤ signed.length := by
  have hagree : ∀ t ∈ ts, approves C t = true → under C publicKeyBytes t = true →
      ∃ k claims, accepted C t = some (k, claims) ∧ Agrees C publicKeyBytes signed k claims := by
    intro t ht happroves hunder
    obtain ⟨k, claims, haccepted⟩ := exists_accepted_of_approves happroves
    exact ⟨k, claims, haccepted, agrees_of_accepted hsigned ht haccepted hunder⟩
  -- what each of these steps accepts
  have hclaims : ∀ t ∈ ts.filter (fun t => approves C t && under C publicKeyBytes t),
      ∃ claims ∈ signed, (accepted C t).map Prod.snd = some claims := by
    intro t ht
    obtain ⟨hmem, hboth⟩ := List.mem_filter.1 ht
    obtain ⟨happroves, hunder⟩ := Bool.and_eq_true_iff.1 hboth
    obtain ⟨k, claims, haccepted, hagrees⟩ := hagree t hmem happroves hunder
    exact ⟨claims, hagrees.mem, by rw [haccepted]; rfl⟩
  have hdistinct : (ts.filter fun t => approves C t && under C publicKeyBytes t).Pairwise
      (fun t u => (accepted C t).map Prod.snd ≠ (accepted C u).map Prod.snd) := by
    refine List.Pairwise.imp_of_mem ?_
      ((accepted_once hrun hclock).sublist List.filter_sublist)
    intro t u ht _ honce heq
    obtain ⟨claims, hmem, htclaims⟩ := hclaims t ht
    obtain ⟨exp, hexp⟩ := hfinite claims hmem
    have huclaims : (accepted C u).map Prod.snd = some claims := heq ▸ htclaims
    obtain ⟨⟨k, c⟩, htk, hc⟩ := Option.map_eq_some_iff.1 htclaims
    obtain ⟨⟨k', c'⟩, huk, hc'⟩ := Option.map_eq_some_iff.1 huclaims
    obtain rfl : c = claims := hc
    obtain rfl : c' = c := hc'
    exact honce k k' c' exp htk hexp huk
  refine ⟨hagree, hdistinct, ?_⟩
  have hnodup := List.pairwise_map.2 hdistinct
  have hsubset : (ts.filter fun t => approves C t && under C publicKeyBytes t).map
      (fun t => (accepted C t).map Prod.snd) ⊆ signed.map some := by
    intro x hx
    obtain ⟨t, ht, rfl⟩ := List.mem_map.1 hx
    obtain ⟨claims, hmem, htclaims⟩ := hclaims t ht
    rw [htclaims]
    exact List.mem_map_of_mem hmem
  simpa using (List.Nodup.subperm hnodup hsubset).length_le

/-- The knock that is sent twice is approved once at most. -/
theorem approvals_agree_resent :
    (resent.filter fun t => approves sentConfig t && under sentConfig (Sample.key 1) t).length
      ≤ 1 := by
  have hsigned : SignedBy sentConfig resent (Sample.key 1)
      [Sample.claimItems "upf-core" "c2FtcGxlIG5vbmNlIDAwMQ==" 1700000000 0] := by
    intro t ht k claims hknock hjws
    rw [payload_of_resent ht hknock] at hjws
    exact List.mem_singleton.2 (Except.ok.inj (hjws.symm.trans verifyJwsSignature_sent))
  refine (approvals_agree sentConfig resent_run resent_clock hsigned fun claims hclaims => ?_).2.2
  rw [List.mem_singleton.1 hclaims]
  exact ⟨_, rfl⟩

/-! ## What the validator may rely on -/

/-- A request with the limiter's verdict on it. -/
def judgedRequest (C : ServiceConfig K J) (t : Step K) : Option (Request × Bool) :=
  (requested t).map fun request => (request, verdict C t.1.requestCounts request)

/-- The verdicts of the steps are those of the limiter's run. -/
theorem verdicts_of_run (hrun : (system C).Run ts service) :
    ts.filterMap (judgedRequest C) =
      verdicts C.maxRequests C.windowSeconds (ts.filterMap requested) := by
  unfold verdicts
  rw [← (counts_of_run hrun).2, List.map_filterMap]
  refine List.filterMap_congr fun t _ => ?_
  rw [judgedRequest, Option.map_map]
  rfl

/-- What is let through at a step was judged and let through. -/
theorem judged_of_forwarded {t : Step K} {submission : Submission}
    (h : forwarded C t = some submission) :
    judgedRequest C t = some (submission.request, true) := by
  obtain ⟨service, event, service'⟩ := t
  cases event with
  | answers submission ambient => cases h
  | manages trustStore => cases h
  | comes request body =>
    change admitted C service.requestCounts request body = some submission at h
    unfold admitted at h
    split at h
    · next hverdict =>
      obtain ⟨body', -, rfl⟩ := Option.map_eq_some_iff.1 h
      show some (request, verdict C service.requestCounts request) = some (request, true)
      rw [hverdict]
    · cases h

/-- **A client cannot flood the validator.** In every run whose clock does
not go back, of the submissions that one client sent within less than a
window no more are ever answered or kept waiting than the limit, whatever
else comes and however long they wait. -/
theorem answers_le (C : ServiceConfig K J) (hrun : (system C).Run ts service)
    (hclock : ClockForward ts) (clientIp : String) (start : ℚ) :
    ((ts.filterMap answered ++ service.waiting).filter fun submission =>
      submission.request.clientIp = clientIp ∧ start ≤ submission.request.time ∧
        submission.request.time < start + C.windowSeconds).length ≤ C.maxRequests.toNat := by
  let kind : Request → Bool := fun request => decide (request.clientIp = clientIp ∧
    start ≤ request.time ∧ request.time < start + C.windowSeconds)
  have hlimit : forwardedCount kind (verdicts C.maxRequests C.windowSeconds
      (ts.filterMap requested)) ≤ C.maxRequests.toNat := by
    refine forwardedCount_le (clockForward_requests hclock) fun later earlier hlater hearlier => ?_
    obtain ⟨hsame, -, hbefore⟩ := of_decide_eq_true hlater
    obtain ⟨hsame', hafter, -⟩ := of_decide_eq_true hearlier
    exact ⟨hsame'.trans hsame.symm, by linarith⟩
  refine le_trans ?_ hlimit
  -- what was answered or waits was forwarded, and so judged and let through
  rw [((perm_of_run hrun).filter _).length_eq, ← verdicts_of_run hrun, forwardedCount,
    List.filter_filterMap, List.filter_filterMap, List.length_filterMap_eq_countP,
    List.length_filterMap_eq_countP]
  refine List.countP_mono_left fun t _ ht => ?_
  obtain ⟨submission, hsubmission⟩ := Option.isSome_iff_exists.1 ht
  obtain ⟨hforwarded, hkind⟩ := Option.filter_eq_some_iff.1 hsubmission
  rw [judged_of_forwarded hforwarded]
  refine Option.isSome_iff_exists.2 ⟨(submission.request, true), Option.filter_eq_some_iff.2 ?_⟩
  exact ⟨rfl, hkind⟩

/-! ## A knock that is sent once too often -/

section Sample

/-- The service of the run, with one request a minute allowed. -/
def strictConfig : ServiceConfig Bytes String := { sentConfig with maxRequests := 1 }

/-- The service when the knock has come, when it was refused a second time,
and when it was answered. -/
def strictOnce : Service Bytes where
  requestCounts := (dispatch 1 60 ∅ (sent 1700000001).request).2
  validator := PolicyDecisionEngine.ownValidator
  waiting := [sent 1700000001]

def strictTwice : Service Bytes :=
  { strictOnce with
    requestCounts := (dispatch 1 60 strictOnce.requestCounts (sent 1700000002).request).2 }

def strictAnswered : Service Bytes :=
  { strictTwice with
    validator := (call (submitKnk sentPackages .default (sent 1700000001).body
      (sentAmbient 1700000003)) PolicyDecisionEngine.ownValidator).2
    waiting := [] }

/-- The knock comes twice, and the one that goes through is answered. -/
def refused : List (Step Bytes) :=
  [(sentStart, .comes (sent 1700000001).request (some (sent 1700000001).body), strictOnce),
    (strictOnce, .comes (sent 1700000002).request (some (sent 1700000002).body), strictTwice),
    (strictTwice, .answers (sent 1700000001) (sentAmbient 1700000003), strictAnswered)]

theorem refused_verdicts :
    verdict strictConfig sentStart.requestCounts (sent 1700000001).request = true ∧
    verdict strictConfig strictOnce.requestCounts (sent 1700000002).request = false := by
  decide +kernel

theorem refused_run : (system strictConfig).Run refused strictAnswered := by
  have hstart : (system strictConfig).Init sentStart :=
    ⟨PolicyDecisionEngine.ownValidator.trustStore, rfl⟩
  have hfirst : (system strictConfig).Next
      (.comes (sent 1700000001).request (some (sent 1700000001).body)) sentStart strictOnce :=
    next_of_forwarded refused_verdicts.1 (sent 1700000001).body
  have hsecond : (system strictConfig).Next
      (.comes (sent 1700000002).request (some (sent 1700000002).body)) strictOnce strictTwice :=
    next_of_refused refused_verdicts.2 (some (sent 1700000002).body)
  have hthird : (system strictConfig).Next (.answers (sent 1700000001) (sentAmbient 1700000003))
      strictTwice strictAnswered := ⟨[], [], rfl, rfl⟩
  exact (((System.Run.init hstart).step _ hfirst).step _ hsecond).step _ hthird

theorem refused_clock : ClockForward refused := by
  unfold ClockForward
  decide +kernel

end Sample

/-- Of the two knocks of that minute the first is forwarded and answered,
the second refused, and no more come through. -/
theorem answers_le_refused :
    verdict strictConfig sentStart.requestCounts (sent 1700000001).request = true ∧
    verdict strictConfig strictOnce.requestCounts (sent 1700000002).request = false ∧
    sent 1700000001 ∈ refused.filterMap answered ∧
    ((refused.filterMap answered ++ strictAnswered.waiting).filter fun submission =>
      submission.request.clientIp = "10.0.0.7" ∧ 1700000000 ≤ submission.request.time ∧
        submission.request.time < (1700000000 : ℚ) + ((60 : ℤ) : ℚ)).length ≤ (1 : ℤ).toNat :=
  ⟨refused_verdicts.1, refused_verdicts.2, List.mem_singleton_self _,
    answers_le strictConfig refused_run refused_clock "10.0.0.7" 1700000000⟩

end Service

end Api

end NhpSba
