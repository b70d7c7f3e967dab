import NhpSba.Knock.Model.Agent
import NhpSba.Knock.Parser
import NhpSba.Knock.Sample
import NhpSba.Knock.Validator
import Mathlib.Tactic.Linarith
import Mathlib.Tactic.NormNum
/-!
# Knock — the honest agent is refused

What the simulated agent sends parses, is fresh, and carries a token that
verifies. The claims of that token name an issuer the validator does not
know, so the knock is refused there (`honest_refused`), whatever the node,
its key and the clock.
-/

namespace NhpSba

namespace Knock

open Fallible

/-! ## The clock -/

theorem truncate_of_nonneg {t : ℚ} (ht : 0 ≤ t) : truncate t = ⌊t⌋ := if_pos ht

/-- Truncation takes less than a second off. -/
theorem truncate_near {t : ℚ} (ht : 0 ≤ t) : (truncate t : ℚ) ≤ t ∧ t - truncate t < 1 := by
  rw [truncate_of_nonneg ht]
  have hle := Int.floor_le t
  have hlt := Int.lt_floor_add_one t
  exact ⟨hle, by linarith⟩

theorem truncate_pos {t : ℚ} (ht : 1 ≤ t) : 0 < truncate t := by
  rw [truncate_of_nonneg (by linarith)]
  exact Int.floor_pos.2 ht

namespace Agent

variable {K J : Type} {R : Runtime K J} {S : Signing J} {M : Schema}

/-- A key, and its public half as every package takes it. -/
structure PublicHalf (R : Runtime K J) (S : Signing J) (key : J) (publicKey : Bytes) : Prop where
  length_eq : publicKey.length = 32
  exportX_eq : S.exportX key = unpadded publicKey
  jwk_ok : ∃ jwkKey, R.jwk (unpadded publicKey) = .ok jwkKey
  fromPublicBytes_ok : ∃ trusted, R.fromPublicBytes publicKey = .ok trusted

/-- **The agent is let in**: its knock passes the parser and is accepted by
the validator, all at the clock it was made at. -/
def LetIn (R : Runtime K J) (S : Signing J) (M : Schema) (v : NhpJwtValidator K) (key : J)
    (nodeId : String) (edns confidence now : ℚ) (uuid : Uuid4) : Prop :=
  ∃ knk payload claims v',
    generateKnkPayload S key nodeId edns confidence 0 now uuid = .ok knk ∧
    NhpKnkParser.fullValidate R M (encodeUtf8 (S.jsonDumps (.dict knk))) now = .ok payload ∧
    call (NhpJwtValidator.validate R payload ⟨now, now⟩) v = (.ok claims, v')

/-! ## What is sent -/

theorem maxEdnsDelta_unit : UnitRange maxEdnsDelta := by
  constructor <;> norm_num [maxEdnsDelta]

theorem core_length : 1 ≤ "core".length := by decide +kernel

theorem amf_length : 1 ≤ "amf.5gc.svc".length ∧ "amf.5gc.svc".length ≤ 256 := by decide +kernel

theorem monitor_mem : "monitor" ∈ actionClasses := List.mem_cons_self

theorem satFragment_length : 1 ≤ "sat-fragment-001".length := by decide +kernel

theorem subscribers_nonneg : (0 : ℤ) ≤ 1000 := by omega

theorem none_nonneg : (0 : ℤ) ≤ 0 := Int.le_refl 0

theorem cei_mem : (0 : ℤ) ≤ 85 ∧ (85 : ℤ) ≤ 100 := by omega

/-- The impact scope of every knock. -/
def sentScope : ImpactScope where
  maxSubscribers := 1000
  maxEdnsDelta := maxEdnsDelta
  domain := "core"
  maxSubscribers_nonneg := subscribers_nonneg
  maxEdnsDelta_mem := maxEdnsDelta_unit
  domain_length := core_length

/-- The intent of a knock. -/
def sentIntent (now : ℚ) : NhpSbaIntent where
  actionClass := "monitor"
  targetService := "amf.5gc.svc"
  impactScope := sentScope
  temporalBounds := temporalBounds now
  actionClass_mem := monitor_mem
  targetService_length := amf_length

/-- The context of a knock. -/
def sentContext {edns confidence : ℚ} (hedns : UnitRange edns) (hscore : UnitRange confidence) :
    NhpSbaContext where
  currentEdns := edns
  currentCei := 85
  activeAlarms := 0
  ongoingRemediations := 0
  agentConfidenceScore := confidence
  currentEdns_mem := hedns
  currentCei_mem := cei_mem
  activeAlarms_nonneg := none_nonneg
  ongoingRemediations_nonneg := none_nonneg
  agentConfidenceScore_mem := hscore

section Sent

variable {key : J} {publicKey : Bytes} {nodeId : String} {edns confidence now : ℚ} {uuid : Uuid4}

/-- What `generate_knk_payload` returns, where the packages sign. -/
theorem generateKnkPayload_eq_ok (hkey : PublicHalf R S key publicKey) {timeOffset : ℤ}
    {d : Dict} :
    generateKnkPayload S key nodeId edns confidence timeOffset now uuid = .ok d ↔
      ∃ token, S.compact
          (encodeUtf8 (S.jsonDumps
            (.dict (jwsPayload nodeId edns confidence timeOffset now uuid)))) key none
          (S.jsonDumps (.dict header)) = .ok token ∧
        d = knk nodeId edns confidence now uuid publicKey token := by
  have hdecode : Base64.urlsafeB64decode ((S.exportX key).toList ++ ['=', '=', '=']) =
      .ok publicKey := by
    rw [hkey.exportX_eq, unpadded, String.toList_ofList, Base64.urlsafeB64decode_stripPadding]
  simp only [generateKnkPayload, bind_eq_ok, hdecode, orValueError, pure, Except.pure,
    Except.ok.injEq, exists_eq_left']
  constructor
  · rintro ⟨token, htoken, rfl⟩
    exact ⟨token, htoken, rfl⟩
  · rintro ⟨token, htoken, rfl⟩
    exact ⟨token, htoken, rfl⟩

/-- The fields of the knock, as the models read them. -/
theorem fields_of_modelValidate {token : String} {payload : NhpKnkPayload}
    (h : NhpKnkPayload.modelValidate M (.dict (knk nodeId edns confidence now uuid publicKey token))
      = some payload) :
    payload.nodeId = nodeId ∧
      payload.publicKey = String.ofList (Base64.b64encode (publicKey.take 32)) ∧
      payload.jws = token := by
  obtain ⟨d, hd, -, hnode, -, -, hpublic, hjws, -⟩ := NhpKnkPayload.modelValidate_eq_some.1 h
  obtain rfl := PyValue.dict.inj hd
  exact ⟨(Option.some.inj hnode).symm, (Option.some.inj hpublic).symm, (Option.some.inj hjws).symm⟩

/-! ## The parser has nothing against it -/

/-- Sixteen bytes are twenty-four characters. -/
theorem nonceVal_length (uuid : Uuid4) :
    16 ≤ (nonceVal uuid).length ∧ (nonceVal uuid).length ≤ 64 := by
  rw [nonceVal, String.length_ofList, Base64.length_b64encode, uuid.length_eq]
  omega

/-- The nonce is the bytes drawn, of which the one with the version is not
zero. -/
theorem nonceVal_spec (uuid : Uuid4) :
    Base64.b64decode (nonceVal uuid).toList = .ok uuid.bytes ∧ ∃ b ∈ uuid.bytes, b ≠ 0 := by
  obtain ⟨b, hb, hversion⟩ := uuid.version_eq
  refine ⟨?_, b, List.mem_of_getElem? hb, ?_⟩
  · rw [nonceVal, String.toList_ofList, Base64.b64decode_b64encode]
  · rintro rfl
    simp at hversion

/-- A token is not empty: it holds two dots. -/
theorem one_le_length_of_compact (hshape : CompactShape S) {payload : Bytes} {alg : Option String}
    {header token : String} (h : S.compact payload key alg header = .ok token) :
    1 ≤ token.length := by
  obtain ⟨signature, rfl⟩ := hshape _ _ _ _ _ h
  have hdot : ".".length = 1 := rfl
  simp only [String.length_append, hdot]
  omega

/-- The key of a node is encoded to some text. -/
theorem one_le_length_publicKey (hlen : publicKey.length = 32) :
    1 ≤ (String.ofList (Base64.b64encode (publicKey.take 32))).length := by
  have htake : (publicKey.take 32).length = 32 := by rw [List.length_take, hlen, Nat.min_self]
  rw [String.length_ofList, Base64.length_b64encode, htake]
  omega

/-- **What the parser makes of a knock**, each field as it was sent. -/
def sent (hlen : publicKey.length = 32) (hnode : LengthBetween 1 256 nodeId)
    (hedns : UnitRange edns) (hscore : UnitRange confidence) (hstart : 1 ≤ now) (uuid : Uuid4)
    {token : String} (htoken : 1 ≤ token.length) : NhpKnkPayload where
  version := "1.0"
  nodeId := nodeId
  timestamp := truncate now
  nonce := nonceVal uuid
  publicKey := String.ofList (Base64.b64encode (publicKey.take 32))
  jws := token
  nhpSbaIntent := sentIntent now
  nhpSbaContext := sentContext hedns hscore
  nhpSbaSatFragment := "sat-fragment-001"
  version_eq := rfl
  nodeId_length := hnode
  timestamp_pos := truncate_pos hstart
  nonce_length := nonceVal_length uuid
  publicKey_length := one_le_length_publicKey hlen
  jws_length := htoken
  nhpSbaSatFragment_length := satFragment_length

theorem modelValidate_knk (hlen : publicKey.length = 32) (hnode : LengthBetween 1 256 nodeId)
    (hedns : UnitRange edns) (hscore : UnitRange confidence) (hstart : 1 ≤ now) {token : String}
    (htoken : 1 ≤ token.length) :
    NhpKnkPayload.modelValidate M (.dict (knk nodeId edns confidence now uuid publicKey token)) =
      some (sent hlen hnode hedns hscore hstart uuid htoken) := by
  have hscope : ImpactScope.modelValidate M (.dict impactScope) = some sentScope :=
    ImpactScope.modelValidate_eq_some.2 ⟨_, rfl, rfl, rfl, rfl⟩
  have hintent : NhpSbaIntent.modelValidate M (.dict (intent now)) = some (sentIntent now) :=
    NhpSbaIntent.modelValidate_eq_some.2 ⟨_, rfl, rfl, rfl, hscope, rfl⟩
  have hcontext : NhpSbaContext.modelValidate M (.dict (context edns confidence)) =
      some (sentContext hedns hscore) :=
    NhpSbaContext.modelValidate_eq_some.2 ⟨_, rfl, rfl, rfl, rfl, rfl, rfl⟩
  exact NhpKnkPayload.modelValidate_eq_some.2
    ⟨_, rfl, rfl, rfl, rfl, rfl, rfl, rfl, hintent, hcontext, rfl⟩

/-- It is of the second it was made in. -/
theorem timestamp_sent (hlen : publicKey.length = 32) (hnode : LengthBetween 1 256 nodeId)
    (hedns : UnitRange edns) (hscore : UnitRange confidence) (hstart : 1 ≤ now) (uuid : Uuid4)
    {token : String} (htoken : 1 ≤ token.length) :
    (sent hlen hnode hedns hscore hstart uuid htoken).timestamp = truncate now := rfl

/-- Its key decodes to the one that was sent. -/
theorem b64decode_sent (hlen : publicKey.length = 32) (hnode : LengthBetween 1 256 nodeId)
    (hedns : UnitRange edns) (hscore : UnitRange confidence) (hstart : 1 ≤ now) (uuid : Uuid4)
    {token : String} (htoken : 1 ≤ token.length) :
    Base64.b64decode (sent hlen hnode hedns hscore hstart uuid htoken).publicKey.toList =
      .ok publicKey := by
  rw [sent, String.toList_ofList, Base64.b64decode_b64encode, List.take_of_length_le hlen.le]

/-- **The knock passes the parser** at the clock it was made at. -/
theorem fullValidate_knk (hkey : PublicHalf R S key publicKey)
    (hnode : LengthBetween 1 256 nodeId) (hedns : UnitRange edns) (hscore : UnitRange confidence)
    (hstart : 1 ≤ now) (hend : now < NhpKnkParser.floatOverflow) {token : String}
    (htoken : 1 ≤ token.length)
    (hreads : ReadsBack R S (.dict (knk nodeId edns confidence now uuid publicKey token))) :
    ∃ payload, NhpKnkParser.fullValidate R M
      (encodeUtf8 (S.jsonDumps (.dict (knk nodeId edns confidence now uuid publicKey token)))) now
        = .ok payload := by
  have hlen := hkey.length_eq
  have hmodel : NhpKnkPayload.modelValidate M
      (.dict (knk nodeId edns confidence now uuid publicKey token)) =
        some (sent hlen hnode hedns hscore hstart uuid htoken) :=
    modelValidate_knk hlen hnode hedns hscore hstart htoken
  have hkeyBytes := b64decode_sent hlen hnode hedns hscore hstart uuid htoken
  obtain ⟨hnonceBytes, hentropy⟩ := nonceVal_spec uuid
  obtain ⟨hle, hlt⟩ := truncate_near (le_trans zero_le_one hstart)
  -- the timestamp is the clock, cut to an integer
  have hdrift : |now - truncate now| ≤ 300 := by
    rw [abs_le]
    constructor <;> linarith
  have hsmall : truncate now < NhpKnkParser.floatOverflow := by
    have hcast := lt_of_le_of_lt hle hend
    exact_mod_cast hcast
  refine ⟨_, NhpKnkParser.fullValidate_eq_ok.2
    ⟨NhpKnkParser.parse_eq_ok.2 ⟨_, hreads.2, hmodel⟩, ?_, ?_, ?_⟩⟩
  · exact NhpKnkParser.validateSchema_eq_ok.2 ⟨publicKey, hkeyBytes, hlen⟩
  · exact NhpKnkParser.validateNonce_eq_ok.2
      ⟨uuid.bytes, hnonceBytes, uuid.length_eq.ge, hentropy⟩
  · exact NhpKnkParser.validateTimestamp_eq_ok.2 ⟨hsmall, hdrift⟩

/-! ## The validator refuses it -/

/-- **The claims name no issuer the validator knows.** -/
theorem validateIssuer_jwsPayload (R : Runtime K J) (nodeId : String) (edns confidence : ℚ)
    (timeOffset : ℤ) (now : ℚ) (uuid : Uuid4) :
    ∃ message, NhpJwtValidator.validateIssuer R
      (jwsPayload nodeId edns confidence timeOffset now uuid)
        = .error (.jwtValidationError message "invalid_issuer") := by
  have hiss : Dict.get (jwsPayload nodeId edns confidence timeOffset now uuid) "iss" =
      .str "nhp_sba-agent" := rfl
  have hunknown : NhpJwtValidator.validIssuers.any (PyValue.str "nhp_sba-agent").eqStr = false := by
    decide
  simp [NhpJwtValidator.validateIssuer, hiss, hunknown, PyValue.truthy, PyValue.str?]

/-- **The knock is refused at its issuer**, by a validator that has its key. -/
theorem validate_knk (hshape : CompactShape S) (hopens : OpensSigned R S)
    (hkey : PublicHalf R S key publicKey) {v : NhpJwtValidator K}
    (hloaded : v.trustStore.keyBytesMap.lookup nodeId = some publicKey)
    (hheader : ReadsBack R S (.dict header))
    (hclaims : ReadsBack R S (.dict (jwsPayload nodeId edns confidence 0 now uuid)))
    {token : String}
    (hcompact : S.compact
      (encodeUtf8 (S.jsonDumps (.dict (jwsPayload nodeId edns confidence 0 now uuid)))) key none
      (S.jsonDumps (.dict header)) = .ok token)
    {payload : NhpKnkPayload}
    (hmodel : NhpKnkPayload.modelValidate M
      (.dict (knk nodeId edns confidence now uuid publicKey token)) = some payload)
    (clock : ClockReadings) :
    ∃ message, call (NhpJwtValidator.validate R payload clock) v =
      (.error (.jwtValidationError message "invalid_issuer"), v) := by
  obtain ⟨hnode, hpublic, hjws⟩ := fields_of_modelValidate hmodel
  obtain ⟨jwkKey, hjwk⟩ := hkey.jwk_ok
  obtain ⟨trusted, htrusted⟩ := hkey.fromPublicBytes_ok
  have hdecode : NhpJwtValidator.decodePublicKey payload.publicKey = .ok publicKey := by
    rw [hpublic, List.take_of_length_le hkey.length_eq.le,
      NhpJwtValidator.decodePublicKey_b64encode hkey.length_eq]
  have htrust : NhpJwtValidator.verifyTrust R v.trustStore payload.nodeId publicKey = .ok () := by
    rw [hnode]
    exact NhpJwtValidator.verifyTrust_of_isTrusted
      (NhpJwtValidator.isTrusted_of_lookup hloaded hkey.length_eq htrusted)
  have hverify : JwsVerifier.verifyCompact R payload.jws publicKey =
      .ok (jwsPayload nodeId edns confidence 0 now uuid) := by
    rw [hjws]
    exact JwsVerifier.verifyCompact_compact hshape hopens hcompact hkey.exportX_eq hkey.length_eq
      hjwk hheader rfl hclaims
  have hsignature : NhpJwtValidator.verifyJwsSignature R payload.jws publicKey =
      .ok (jwsPayload nodeId edns confidence 0 now uuid) := by
    rw [NhpJwtValidator.verifyJwsSignature, hverify]
  -- every check before the issuer's passes
  obtain ⟨message, hissuer⟩ := validateIssuer_jwsPayload R nodeId edns confidence 0 now uuid
  have hchecks : NhpJwtValidator.checks R v.trustStore payload clock.expiration =
      .error (.jwtValidationError message "invalid_issuer") := by
    rw [NhpJwtValidator.checks, hdecode]
    simp only [bind, Except.bind, htrust, hsignature, hissuer]
  refine ⟨message, ?_⟩
  rw [NhpJwtValidator.call_validate, hchecks]

end Sent

/-! ## Refusal -/

/-- **An honest run.** The node's key is the one its store was loaded with,
the scores are in range, and the packages keep their laws on the three
values that are sent. -/
structure Honest (R : Runtime K J) (S : Signing J) (v : NhpJwtValidator K) (key : J)
    (publicKey : Bytes) (nodeId : String) (edns confidence now : ℚ) (uuid : Uuid4) : Prop where
  compactShape : CompactShape S
  opensSigned : OpensSigned R S
  publicHalf : PublicHalf R S key publicKey
  loaded : v.trustStore.keyBytesMap.lookup nodeId = some publicKey
  nodeId_length : LengthBetween 1 256 nodeId
  edns_unit : UnitRange edns
  confidence_unit : UnitRange confidence
  header_readsBack : ReadsBack R S (.dict header)
  claims_readsBack : ReadsBack R S (.dict (jwsPayload nodeId edns confidence 0 now uuid))
  knk_readsBack : ∀ d, generateKnkPayload S key nodeId edns confidence 0 now uuid = .ok d →
    ReadsBack R S (.dict d)

section Refusal

variable {v : NhpJwtValidator K} {key : J} {publicKey : Bytes} {nodeId : String}
  {edns confidence now : ℚ} {uuid : Uuid4}

/-- Of an honest run, what parses is refused for its issuer. -/
theorem Honest.refused (h : Honest R S v key publicKey nodeId edns confidence now uuid) {d : Dict}
    (hd : generateKnkPayload S key nodeId edns confidence 0 now uuid = .ok d)
    {payload : NhpKnkPayload}
    (hfull : NhpKnkParser.fullValidate R M (encodeUtf8 (S.jsonDumps (.dict d))) now = .ok payload) :
    ∃ message, call (NhpJwtValidator.validate R payload ⟨now, now⟩) v =
      (.error (.jwtValidationError message "invalid_issuer"), v) := by
  obtain ⟨hparse, -⟩ := NhpKnkParser.fullValidate_eq_ok.1 hfull
  obtain ⟨data, hloads, hmodel⟩ := NhpKnkParser.parse_eq_ok.1 hparse
  rw [(h.knk_readsBack d hd).2] at hloads
  obtain rfl := Except.ok.inj hloads
  obtain ⟨token, hcompact, rfl⟩ := (generateKnkPayload_eq_ok h.publicHalf).1 hd
  exact validate_knk h.compactShape h.opensSigned h.publicHalf h.loaded h.header_readsBack
    h.claims_readsBack hcompact hmodel ⟨now, now⟩

/-- So the agent is not let in. -/
theorem Honest.not_letIn (h : Honest R S v key publicKey nodeId edns confidence now uuid) :
    ¬LetIn R S M v key nodeId edns confidence now uuid := by
  rintro ⟨d, payload, claims, v', hd, hfull, haccepted⟩
  obtain ⟨message, herror⟩ := h.refused hd hfull
  rw [haccepted] at herror
  cases (Prod.mk.inj herror).1

/-- It is not the parser that keeps it out. -/
theorem Honest.parsed (h : Honest R S v key publicKey nodeId edns confidence now uuid)
    (hstart : 1 ≤ now) (hend : now < NhpKnkParser.floatOverflow) {d : Dict}
    (hd : generateKnkPayload S key nodeId edns confidence 0 now uuid = .ok d) :
    ∃ payload,
      NhpKnkParser.fullValidate R M (encodeUtf8 (S.jsonDumps (.dict d))) now = .ok payload := by
  have hreads := h.knk_readsBack d hd
  obtain ⟨token, hcompact, rfl⟩ := (generateKnkPayload_eq_ok h.publicHalf).1 hd
  exact fullValidate_knk h.publicHalf h.nodeId_length h.edns_unit h.confidence_unit hstart hend
    (one_le_length_of_compact h.compactShape hcompact) hreads

/-- **The honest agent is never let in.** From the first second of the
clock on its knock passes the parser, and the validator that has its key
refuses it for its issuer. -/
theorem honest_refused (h : Honest R S v key publicKey nodeId edns confidence now uuid) :
    ¬LetIn R S M v key nodeId edns confidence now uuid ∧
    ∀ d, generateKnkPayload S key nodeId edns confidence 0 now uuid = .ok d →
      1 ≤ now → now < NhpKnkParser.floatOverflow →
      ∃ payload message,
        NhpKnkParser.fullValidate R M (encodeUtf8 (S.jsonDumps (.dict d))) now = .ok payload ∧
        call (NhpJwtValidator.validate R payload ⟨now, now⟩) v =
          (.error (.jwtValidationError message "invalid_issuer"), v) := by
  refine ⟨h.not_letIn, fun d hd hstart hend => ?_⟩
  obtain ⟨payload, hfull⟩ := h.parsed (M := M) hstart hend hd
  obtain ⟨message, herror⟩ := h.refused hd hfull
  exact ⟨payload, message, hfull, herror⟩

end Refusal

end Agent

/-! ## A run small enough to follow -/

namespace Sample

open Agent

/-- The `float`s of the run, each by its shortest `repr`. -/
def reprFloat (q : ℚ) : String :=
  if q = maxEdnsDelta then "0.05" else if q = 1 / 2 then "0.5" else if q = 1 then "1.0"
  else toString q

/-- `json.dumps`, with the `float`s of the run. -/
def agentDumps : ℕ → PyValue → String := write ", " ": " reprFloat

/-- The sample signer, with that writer. -/
def agentSigning : Signing String := { signing with jsonDumps := agentDumps 5 }

def agentUuid : Uuid4 where
  bytes := [0x12, 0x34, 0x56, 0x78, 0x9A, 0xBC, 0x4D, 0xEF, 0x80, 1, 2, 3, 4, 5, 6, 7]
  length_eq := rfl
  version_eq := ⟨0x4D, rfl, rfl⟩

/-- The claims that the agent signs at a clock of 1700000000. -/
def agentClaims : Dict := jwsPayload "agent-001" (1 / 2) 1 0 1700000000 agentUuid

def agentToken : String :=
  unpadded (encodeUtf8 (agentDumps 5 (.dict Agent.header))) ++ "." ++
    unpadded (encodeUtf8 (agentDumps 5 (.dict agentClaims))) ++ "." ++ unpadded (key 7)

/-- The knock that carries them. -/
def agentKnk : Dict := knk "agent-001" (1 / 2) 1 1700000000 agentUuid (key 7) agentToken

/-- The values whose texts the packages know. -/
def agentValues : List PyValue := [.dict Agent.header, .dict agentClaims, .dict agentKnk]

def agentPackages : Runtime Bytes String :=
  runtime (agentValues.map fun v => (agentDumps 5 v, v))

/-- Pydantic, where no value needs a conversion. -/
def agentSchema : Schema where
  isDecodeError _ := true
  laxInt _ := none
  laxFloat _ := none
  validationError _ := "validation error for NhpKnkPayload"

/-- A server that was loaded with the agent's key. -/
def agentValidator : NhpJwtValidator Bytes := NhpJwtValidator.new (store [("agent-001", 7)])

/-- The three texts start with different keys. -/
theorem agentValues_distinct : (agentValues.map (agentDumps 5)).Nodup := by
  have hkey := write_key ", " ": " reprFloat 4
  obtain ⟨headerTail, hheader⟩ := hkey "alg" (.str "EdDSA") []
  obtain ⟨claimsTail, hclaims⟩ := hkey "iss" (.str "nhp_sba-agent") agentClaims.tail
  obtain ⟨knkTail, hknk⟩ := hkey "version" (.str "1.0") agentKnk.tail
  have hne : ∀ {a b : PyValue} {s t : List Char}, (agentDumps 5 a).toList = s →
      (agentDumps 5 b).toList = t → s ≠ t → agentDumps 5 a ≠ agentDumps 5 b := by
    intro a b s t ha hb hst heq
    exact hst (ha.symm.trans ((congrArg String.toList heq).trans hb))
  have h₁ : agentDumps 5 (.dict Agent.header) ≠ agentDumps 5 (.dict agentClaims) :=
    hne hheader hclaims (by simp)
  have h₂ : agentDumps 5 (.dict Agent.header) ≠ agentDumps 5 (.dict agentKnk) :=
    hne hheader hknk (by simp)
  have h₃ : agentDumps 5 (.dict agentClaims) ≠ agentDumps 5 (.dict agentKnk) :=
    hne hclaims hknk (by simp)
  simp [agentValues, h₁, h₂, h₃]

theorem agentValues_readBack {v : PyValue} (hv : v ∈ agentValues) :
    ReadsBack agentPackages agentSigning v := by
  have hlookup := lookup_table agentValues_distinct hv
  exact ⟨loads_inr hlookup, loads_inl hlookup⟩

theorem agentKey_publicHalf :
    PublicHalf agentPackages agentSigning (unpadded (key 7)) (key 7) where
  length_eq := length_key 7
  exportX_eq := rfl
  jwk_ok := ⟨_, rfl⟩
  fromPublicBytes_ok := ⟨key 7, fromPublicBytes_key 7⟩

/-- The one knock that is generated. -/
theorem generateKnkPayload_agent {d : Dict} :
    generateKnkPayload agentSigning (unpadded (key 7)) "agent-001" (1 / 2) 1 0 1700000000 agentUuid
      = .ok d ↔ d = agentKnk := by
  have hcompact : ∀ token, agentSigning.compact
      (encodeUtf8 (agentDumps 5 (.dict agentClaims))) (unpadded (key 7)) none
      (agentDumps 5 (.dict Agent.header)) = .ok token ↔ token = agentToken := by
    intro token
    have hsame : agentSigning.compact = signing.compact := rfl
    rw [hsame, signing_compact_eq_ok]
    constructor
    · rintro ⟨signature, hsignature, rfl⟩
      rw [← hsignature]
      rfl
    · rintro rfl
      exact ⟨key 7, rfl, rfl⟩
  refine (generateKnkPayload_eq_ok agentKey_publicHalf).trans ?_
  constructor
  · rintro ⟨token, htoken, rfl⟩
    obtain rfl := (hcompact token).1 htoken
    rfl
  · rintro rfl
    exact ⟨agentToken, (hcompact agentToken).2 rfl, rfl⟩

theorem agent_honest : Honest agentPackages agentSigning agentValidator (unpadded (key 7)) (key 7)
    "agent-001" (1 / 2) 1 1700000000 agentUuid where
  compactShape := signing_compactShape
  opensSigned := signing_opensSigned
  publicHalf := agentKey_publicHalf
  loaded := rfl
  nodeId_length := by decide +kernel
  edns_unit := by constructor <;> norm_num
  confidence_unit := by constructor <;> norm_num
  header_readsBack := agentValues_readBack (by simp [agentValues])
  claims_readsBack := agentValues_readBack (by simp [agentValues, agentClaims])
  knk_readsBack := by
    intro d hd
    rw [generateKnkPayload_agent.1 hd]
    exact agentValues_readBack (by simp [agentValues])

/-- The agent of the run is refused. -/
theorem honest_refused_agent :
    ¬LetIn agentPackages agentSigning agentSchema agentValidator (unpadded (key 7)) "agent-001"
      (1 / 2) 1 1700000000 agentUuid ∧
    ∀ d, generateKnkPayload agentSigning (unpadded (key 7)) "agent-001" (1 / 2) 1 0 1700000000
        agentUuid = .ok d →
      (1 : ℚ) ≤ 1700000000 → (1700000000 : ℚ) < NhpKnkParser.floatOverflow →
      ∃ payload message,
        NhpKnkParser.fullValidate agentPackages agentSchema
          (encodeUtf8 (agentSigning.jsonDumps (.dict d))) 1700000000 = .ok payload ∧
        call (NhpJwtValidator.validate agentPackages payload ⟨1700000000, 1700000000⟩)
          agentValidator = (.error (.jwtValidationError message "invalid_issuer"), agentValidator) :=
  honest_refused agent_honest

/-- Its knock is generated and parses, and still it is not let in. -/
theorem agent_not_letIn :
    (∃ payload,
      generateKnkPayload agentSigning (unpadded (key 7)) "agent-001" (1 / 2) 1 0 1700000000
        agentUuid = .ok agentKnk ∧
      NhpKnkParser.fullValidate agentPackages agentSchema
        (encodeUtf8 (agentDumps 5 (.dict agentKnk))) 1700000000 = .ok payload ∧
      payload.nonce ∉ agentValidator.seenNonces) ∧
    ¬LetIn agentPackages agentSigning agentSchema agentValidator (unpadded (key 7)) "agent-001"
      (1 / 2) 1 1700000000 agentUuid := by
  have hd := generateKnkPayload_agent.2 rfl
  have hsmall : (1700000000 : ℤ) < NhpKnkParser.floatOverflow := by decide +kernel
  have hend : (1700000000 : ℚ) < NhpKnkParser.floatOverflow := by exact_mod_cast hsmall
  obtain ⟨payload, hfull⟩ := agent_honest.parsed (M := agentSchema) (by norm_num) hend hd
  exact ⟨⟨payload, hd, hfull, AList.notMem_empty _⟩, agent_honest.not_letIn⟩

end Sample

end Knock

end NhpSba
