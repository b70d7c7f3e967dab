import NhpSba.Knock.Model.Signing
/-!
# Knock — the agent simulator

`generate_knk_payload`, the knock that the simulated agent sends. Every
reading of the clock in one call is the same.
-/

namespace NhpSba

namespace Knock

/-- `uuid.uuid4()`: sixteen bytes, the seventh of which starts with the
version. -/
structure Uuid4 where
  bytes : Bytes
  length_eq : bytes.length = 16
  version_eq : ∃ b, bytes[6]? = some b ∧ b.toNat / 16 = 4

namespace Agent

/-- The literal `0.05`, as the `float` it is. -/
def maxEdnsDelta : ℚ := 3602879701896397 / 2 ^ 56

/-- The `impact_scope` of the intent. -/
def impactScope : Dict :=
  [("max_subscribers", .int 1000), ("max_edns_delta", .float (.finite maxEdnsDelta)),
    ("domain", .str "core")]

/-- The `temporal_bounds` of the intent. -/
def temporalBounds (now : ℚ) : Dict :=
  [("session_duration_ms", .int 300000),
    ("execution_window", .dict [("start_time", .int (truncate now)),
      ("end_time", .int (truncate now + 300000))])]

/-- The intent, which is sent in clear and signed. -/
def intent (now : ℚ) : Dict :=
  [("action_class", .str "monitor"), ("target_service", .str "amf.5gc.svc"),
    ("impact_scope", .dict impactScope), ("temporal_bounds", .dict (temporalBounds now))]

/-- The context, which is sent in clear and signed. -/
def context (edns confidence : ℚ) : Dict :=
  [("current_edns", .float (.finite edns)), ("current_cei", .int 85), ("active_alarms", .int 0),
    ("ongoing_remediations", .int 0), ("agent_confidence_score", .float (.finite confidence))]

def header : Dict := [("alg", .str "EdDSA")]

/-- `nonce_val`. -/
def nonceVal (uuid : Uuid4) : String := String.ofList (Base64.b64encode uuid.bytes)

/-- `jws_payload`. -/
def jwsPayload (nodeId : String) (edns confidence : ℚ) (timeOffset : ℤ) (now : ℚ)
    (uuid : Uuid4) : Dict :=
  [("iss", .str "nhp_sba-agent"), ("aud", .str "nhp_sba-nhp-server"),
    ("exp", .int (truncate now + 30 + timeOffset)),
    ("node_id", .str nodeId), ("nonce", .str (nonceVal uuid)),
    ("timestamp", .int (truncate now)), ("nhp_sba_intent", .dict (intent now)),
    ("nhp_sba_context", .dict (context edns confidence))]

/-- `knk`, of a token and of the bytes of the public key. -/
def knk (nodeId : String) (edns confidence : ℚ) (now : ℚ) (uuid : Uuid4) (publicKey : Bytes)
    (token : String) : Dict :=
  [("version", .str "1.0"), ("node_id", .str nodeId), ("timestamp", .int (truncate now)),
    ("nonce", .str (nonceVal uuid)),
    ("public_key", .str (String.ofList (Base64.b64encode (publicKey.take 32)))),
    ("jws", .str token), ("nhp_sba_intent", .dict (intent now)),
    ("nhp_sba_context", .dict (context edns confidence)),
    ("nhp_sba_sat_fragment", .str "sat-fragment-001")]

variable {J : Type} (S : Signing J)

/-- `generate_knk_payload`. -/
def generateKnkPayload (key : J) (nodeId : String) (edns confidence : ℚ) (timeOffset : ℤ)
    (now : ℚ) (uuid : Uuid4) : Except PyException Dict := do
  let payloadBytes :=
    encodeUtf8 (S.jsonDumps (.dict (jwsPayload nodeId edns confidence timeOffset now uuid)))
  let token ← S.compact payloadBytes key none (S.jsonDumps (.dict header))
  let publicKey ←
    orValueError (Base64.urlsafeB64decode ((S.exportX key).toList ++ ['=', '=', '=']))
  return knk nodeId edns confidence now uuid publicKey token

end Agent

end Knock

end NhpSba
