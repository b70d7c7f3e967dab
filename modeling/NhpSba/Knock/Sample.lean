import NhpSba.Knock.Model.Validator
import NhpSba.Knock.Signing
import Mathlib.Tactic.NormNum
/-!
# Knock — a runtime small enough to run

`Runtime` leaves the server's packages open. This file fills it in with
packages that run: a JSON reader for the texts in a table, keys that are
their own 32 bytes, and a signature that is the signer's key. Tokens are
real compact tokens, base64url and all.
-/

namespace NhpSba

namespace Knock

namespace Sample

/-- `json.loads`, of the texts in a table. -/
def loads (texts : List (String × PyValue)) : Bytes ⊕ String → Except String PyValue
  | .inl data => loadsText ((String.fromUTF8? ⟨data.toArray⟩).getD "")
  | .inr text => loadsText text
where
  loadsText (text : String) : Except String PyValue :=
    match texts.lookup text with
    | some v => .ok v
    | none => .error "Expecting value: line 1 column 1 (char 0)"

/-- Open a token whose signature segment is the key. -/
def openToken (token key : String) : Except PyException (Bytes ⊕ String) :=
  match token.toList.splitOn '.' with
  | [_, payload, signature] =>
    if signature = key.toList then
      match Base64.urlsafeB64decode (Base64.restorePadding payload) with
      | .ok data => .ok (.inl data)
      | .error exc => .error (.invalidJWSObject exc)
    else .error (.invalidJWSSignature "Verification failed for all signatures")
  | _ => .error (.invalidJWSObject "Invalid format")

/-- The packages, over a table of JSON texts. -/
def runtime (texts : List (String × PyValue)) : Runtime Bytes String where
  jsonLoads := loads texts
  unicodeDecodeError _ := "'utf-8' codec can't decode the data"
  formatValue v := (v.str?).getD v.typeName
  formatTime t := toString t
  jwk x := .ok x
  jwsOpen := openToken
  fromPublicBytes data :=
    if data.length = 32 then .ok data
    else .error (.valueError "An Ed25519 public key is 32 bytes long")
  publicBytes key := key
  loadPemPublicKey _ := .error (.valueError "Unable to load PEM file")

/-- The JSON text, to a depth, of a value made of strings, numbers and
dictionaries, with its separators and its way to write a `float`. -/
def write (comma colon : String) (float : ℚ → String) : ℕ → PyValue → String
  | _, .str s => "\"" ++ s ++ "\""
  | _, .int z => toString z
  | _, .float (.finite q) => float q
  | depth + 1, .dict items =>
    "\x7b" ++ comma.intercalate (items.map fun kv =>
      "\"" ++ kv.1 ++ "\"" ++ colon ++ write comma colon float depth kv.2) ++ "\x7d"
  | _, _ => "null"

/-- The text of a `dict` starts with its first key. -/
theorem write_key (comma colon : String) (float : ℚ → String) (depth : ℕ) (name : String)
    (v : PyValue) (rest : Dict) :
    ∃ tail, (write comma colon float (depth + 1) (.dict ((name, v) :: rest))).toList =
      '\x7b' :: '"' :: (name.toList ++ tail) := by
  simp only [write, String.toList_append, List.map_cons, String.toList_intercalate]
  cases rest <;> simp [List.intercalate]

/-- `json.dumps`, of values without a `float`. -/
def dumps : ℕ → PyValue → String := write ", " ": " fun _ => "null"

/-- A key: one byte, 32 times. -/
def key (byte : UInt8) : Bytes := List.replicate 32 byte

def header : PyValue := .dict [("alg", .str "EdDSA"), ("typ", .str "JWS")]

/-- A token over the texts of a header and of claims. -/
def token (header claims : String) (byte : UInt8) : String :=
  String.ofList (List.intercalate ['.']
    [(unpadded (encodeUtf8 header)).toList, (unpadded (encodeUtf8 claims)).toList,
      (unpadded (key byte)).toList])

/-- The items of the claims of a token that lives for a minute. -/
def claimItems (nodeId nonce : String) (issued edns : ℤ) : Dict :=
  [("iss", .str "nhp-sba-agent"), ("aud", .str "nhp-sba-server"), ("exp", .int (issued + 60)),
    ("node_id", .str nodeId), ("timestamp", .int issued), ("nonce", .str nonce),
    ("nhp_sba_intent",
      .dict [("action_class", .str "monitor"), ("target_service", .str "upf-core")]),
    ("nhp_sba_context", .dict [("current_edns", .int edns)])]

/-- Those claims. -/
def claims (nodeId nonce : String) (issued edns : ℤ) : PyValue :=
  .dict (claimItems nodeId nonce issued edns)

theorem targetService_length : 1 ≤ "upf-core".length ∧ "upf-core".length ≤ 256 := by
  decide +kernel

/-- The intent the claims name. -/
def intent : NhpSbaIntent where
  actionClass := "monitor"
  targetService := "upf-core"
  impactScope :=
    { maxSubscribers := 100
      maxEdnsDelta := 0
      domain := "ran"
      maxSubscribers_nonneg := by decide
      maxEdnsDelta_mem := by norm_num
      domain_length := by decide +kernel }
  temporalBounds := []
  actionClass_mem := by decide +kernel
  targetService_length := targetService_length

theorem zero_unit : (0 : ℚ) ≤ 0 ∧ (0 : ℚ) ≤ 1 := by norm_num

theorem one_unit : (0 : ℚ) ≤ 1 ∧ (1 : ℚ) ≤ 1 := by norm_num

theorem zero_nonneg : (0 : ℤ) ≤ 0 := Int.le_refl 0

theorem cei_range : (0 : ℤ) ≤ 90 ∧ (90 : ℤ) ≤ 100 := by decide

/-- A context in which no demand goes unserved. -/
def context : NhpSbaContext where
  currentEdns := 0
  currentCei := 90
  activeAlarms := 0
  ongoingRemediations := 0
  agentConfidenceScore := 1
  currentEdns_mem := zero_unit
  currentCei_mem := cei_range
  activeAlarms_nonneg := zero_nonneg
  ongoingRemediations_nonneg := zero_nonneg
  agentConfidenceScore_mem := one_unit

theorem token_length (header claims : String) (byte : UInt8) :
    1 ≤ (token header claims byte).length := by
  rw [token, String.length_ofList]
  simp only [List.intercalate, List.intersperse, List.flatten_cons, List.length_append,
    List.length_singleton]
  omega

theorem publicKey_length (byte : UInt8) :
    1 ≤ (String.ofList (Base64.b64encode (key byte))).length := by
  simp [key, List.replicate, Base64.b64encode]

theorem fragment_length : 1 ≤ "fragment".length := by decide +kernel

theorem issued_pos : (0 : ℤ) < 1700000000 := by decide

/-- The nonce of the sample knocks is as long as the schema asks. -/
theorem nonce_length : 16 ≤ "c2FtcGxlIG5vbmNlIDAwMQ==".length ∧
    "c2FtcGxlIG5vbmNlIDAwMQ==".length ≤ 64 := by decide +kernel

/-- A knock: the claims above, signed by the node's key, and in clear the
intent and the context above. -/
def knock (nodeId nonce : String) (byte : UInt8) (issued edns : ℤ)
    (hnode : 1 ≤ nodeId.length ∧ nodeId.length ≤ 256)
    (hnonce : 16 ≤ nonce.length ∧ nonce.length ≤ 64) (hissued : 0 < issued) : NhpKnkPayload where
  version := "1.0"
  nodeId := nodeId
  timestamp := issued
  nonce := nonce
  publicKey := String.ofList (Base64.b64encode (key byte))
  jws := token (dumps 2 header) (dumps 2 (claims nodeId nonce issued edns)) byte
  nhpSbaIntent := intent
  nhpSbaContext := context
  nhpSbaSatFragment := "fragment"
  version_eq := rfl
  nodeId_length := hnode
  timestamp_pos := hissued
  nonce_length := hnonce
  publicKey_length := publicKey_length byte
  jws_length := token_length ..
  nhpSbaSatFragment_length := fragment_length

/-- The packages, for knocks with the given claims. -/
def packages (signed : List PyValue) : Runtime Bytes String :=
  runtime ((header :: signed).map fun v => (dumps 2 v, v))

/-- A store that trusts each node with its key. -/
def store (nodes : List (String × UInt8)) : TrustStore Bytes :=
  nodes.foldl (fun s node => s.put node.1 (key node.2) (key node.2)) TrustStore.empty

/-! ## The packages accept what was signed -/

/-- A sample token is a compact token, signed with the signer's key. -/
theorem token_eq (headerText claimsText : String) (byte : UInt8) :
    token headerText claimsText byte = unpadded (encodeUtf8 headerText) ++ "." ++
      unpadded (encodeUtf8 claimsText) ++ "." ++ unpadded (key byte) := by
  apply String.toList_inj.1
  have hdot : ".".toList = ['.'] := rfl
  rw [token, String.toList_ofList]
  simp only [List.intercalate, List.intersperse, List.flatten_cons, List.flatten_nil,
    List.append_nil, List.append_assoc, String.toList_append, hdot]

variable {texts : List (String × PyValue)}

/-- A table of distinct texts gives each value its own. -/
theorem lookup_table {α β : Type} [BEq β] [LawfulBEq β] {f : α → β} {values : List α}
    (hdistinct : (values.map f).Nodup) {v : α} (hv : v ∈ values) :
    (values.map fun v => (f v, v)).lookup (f v) = some v := by
  induction values with
  | nil => cases hv
  | cons w values ih =>
    obtain ⟨hfresh, hdistinct⟩ := List.nodup_cons.1 hdistinct
    rw [List.map_cons, List.lookup_cons]
    rcases List.mem_cons.1 hv with rfl | hv
    · rw [beq_self_eq_true]
    · have hne : (f v == f w) = false := by
        rw [beq_eq_false_iff_ne]
        intro h
        exact hfresh (h ▸ List.mem_map_of_mem hv)
      rw [hne]
      exact ih hdistinct hv

theorem loads_inr {text : String} {v : PyValue} (h : texts.lookup text = some v) :
    loads texts (.inr text) = .ok v := by
  simp [loads, loads.loadsText, h]

theorem loads_inl {text : String} {v : PyValue} (h : texts.lookup text = some v) :
    loads texts (.inl (encodeUtf8 text)) = .ok v := by
  simp [loads, loads.loadsText, fromUTF8_encodeUtf8, h]

@[simp] theorem runtime_jsonLoads : (runtime texts).jsonLoads = loads texts := rfl

@[simp] theorem runtime_jwsOpen : (runtime texts).jwsOpen = openToken := rfl

theorem length_key (byte : UInt8) : (key byte).length = 32 := List.length_replicate

theorem fromPublicBytes_key (byte : UInt8) :
    (runtime texts).fromPublicBytes (key byte) = .ok (key byte) := by
  simp [runtime, length_key]

/-- A token opens to its payload under the key that is its signature. -/
theorem openToken_unpadded (header payload signature : Bytes) :
    openToken (unpadded header ++ "." ++ unpadded payload ++ "." ++ unpadded signature)
      (unpadded signature) = .ok (.inl payload) := by
  rw [openToken, splitOn_compact]
  simp only [if_true, decode_unpadded]

/-- **A token opens to its claims**, where the reader knows its two texts
and its header names EdDSA. -/
theorem verifyCompact_token {headerText claimsText : String} {items d : Dict} {byte : UInt8}
    (hheader : texts.lookup headerText = some (.dict items))
    (halg : items.lookup "alg" = some (.str "EdDSA"))
    (hclaims : texts.lookup claimsText = some (.dict d)) :
    JwsVerifier.verifyCompact (runtime texts) (token headerText claimsText byte) (key byte) =
      .ok d := by
  have hjwk : (runtime texts).jwk (unpadded (key byte)) = .ok (unpadded (key byte)) := rfl
  rw [token_eq]
  refine JwsVerifier.verifyCompact_eq ?_ (length_key byte) hjwk (loads_inl hheader) halg
    (loads_inr hclaims)
  rw [runtime_jwsOpen, openToken_unpadded]

/-! ## A signer -/

/-- The signer's side of the sample packages: a key is its public half,
and a signature is the key. -/
def signing : Signing String where
  jsonDumps := dumps 2
  privateJwk _ x := .ok x
  exportX key := key
  compact payload key _ header :=
    match Base64.urlsafeB64decode (Base64.restorePadding key.toList) with
    | .ok signature =>
      if unpadded signature = key then
        .ok (unpadded (encodeUtf8 header) ++ "." ++ unpadded payload ++ "." ++ key)
      else .error (.valueError "Invalid key value")
    | .error exc => .error (.valueError exc)

/-- What the sample signer returns. -/
theorem signing_compact_eq_ok {payload : Bytes} {key : String} {alg : Option String}
    {header token : String} :
    signing.compact payload key alg header = .ok token ↔
      ∃ signature, key = unpadded signature ∧
        token = unpadded (encodeUtf8 header) ++ "." ++ unpadded payload ++ "." ++
          unpadded signature := by
  simp only [signing]
  constructor
  · intro h
    split at h
    · next signature hdecode =>
      split at h
      · next hkey => exact ⟨signature, hkey.symm, hkey ▸ (Except.ok.inj h).symm⟩
      · cases h
    · cases h
  · rintro ⟨signature, rfl, rfl⟩
    simp only [decode_unpadded, if_true]

theorem signing_compactShape : CompactShape signing := by
  intro payload key alg header token h
  obtain ⟨signature, -, htoken⟩ := signing_compact_eq_ok.1 h
  exact ⟨signature, htoken⟩

theorem signing_opensSigned : OpensSigned (runtime texts) signing := by
  intro payload key alg header token jwkKey h hjwk
  obtain ⟨signature, rfl, rfl⟩ := signing_compact_eq_ok.1 h
  obtain rfl : unpadded signature = jwkKey := Except.ok.inj hjwk
  rw [runtime_jwsOpen, openToken_unpadded]

end Sample

end Knock

end NhpSba
