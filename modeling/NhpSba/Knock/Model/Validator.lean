import NhpSba.Knock.Model.Jws
import NhpSba.Knock.Model.Payload
import NhpSba.Knock.Model.TrustStore
import NhpSba.Common.Fallible
import NhpSba.Common.Double
/-!
# Knock — the validation pipeline

`NhpJwtValidator.validate` as the server runs it: six checks that read the
knock, the trust store and the clock, and a seventh that also reads and
writes the table of nonces seen. Clock readings are rationals; the bounds
that the expiration check makes of one are rounded as sums of floats are.
-/

namespace NhpSba

namespace Knock

open Fallible

/-- A validator: its trust store, and the nonces it has seen with the time
of each. -/
structure NhpJwtValidator (K : Type) where
  trustStore : TrustStore K
  seenNonces : AList fun _ : String => ℚ

/-- The two readings of `time.time()` in one call: at the expiration check
and at the nonce check. -/
structure ClockReadings where
  expiration : ℚ
  nonce : ℚ

namespace NhpJwtValidator

variable {K J : Type} (R : Runtime K J)

def expectedAudience : String := "nhp-sba-server"

def maxClockSkewSeconds : ℚ := 5

def strictExpBoundSeconds : ℚ := 60

def validIssuers : List String := ["nhp-sba-agent", "nhp-sba-soc", "nhp-sba-operator"]

def nonceExpirySeconds : ℚ := 300

/-- A new validator over a trust store. -/
def new (trustStore : TrustStore K) : NhpJwtValidator K := ⟨trustStore, ∅⟩

/-- `_decode_public_key`. -/
def decodePublicKey (publicKeyB64 : String) : Except PyException Bytes :=
  match Base64.b64decode publicKeyB64.toList with
  | .ok raw =>
    if raw.length ≠ 32 then
      .error (.jwtValidationError
        s!"Ed25519 public key must be 32 bytes, got {raw.length}" "invalid_public_key")
    else .ok raw
  | .error exc =>
    .error (.jwtValidationError s!"Failed to decode public key: {exc}" "invalid_public_key")

/-- `_verify_trust`. -/
def verifyTrust (trustStore : TrustStore K) (nodeId : String) (publicKeyBytes : Bytes) :
    Except PyException Unit :=
  if !trustStore.isTrusted R nodeId publicKeyBytes then
    .error (.jwtValidationError
      s!"Untrusted node: '{nodeId}'. Public key not found in trust store." "untrusted_node")
  else .ok ()

/-- `_verify_jws_signature`, whose handler catches a `JwsVerificationError`
only. -/
def verifyJwsSignature (jwsToken : String) (publicKeyBytes : Bytes) : Except PyException Dict :=
  match JwsVerifier.verifyCompact R jwsToken publicKeyBytes with
  | .error (.jwsVerificationError message) =>
    .error (.jwtValidationError
      s!"JWS signature verification failed: {message}" "invalid_signature")
  | result => result

/-- `_validate_issuer`. -/
def validateIssuer (claims : Dict) : Except PyException Unit :=
  let iss := claims.get "iss"
  if !iss.truthy || iss.str?.isNone then
    .error (.jwtValidationError "Missing or invalid 'iss' claim in JWS payload" "missing_claim")
  else if !validIssuers.any iss.eqStr then
    let shown := R.formatValue iss
    .error (.jwtValidationError (s!"Invalid issuer '{shown}'. Allowed: " ++
      "['nhp-sba-agent', 'nhp-sba-soc', 'nhp-sba-operator']") "invalid_issuer")
  else .ok ()

/-- `_validate_audience`. -/
def validateAudience (claims : Dict) : Except PyException Unit :=
  let aud := claims.get "aud"
  if !aud.truthy || aud.str?.isNone then
    .error (.jwtValidationError "Missing or invalid 'aud' claim in JWS payload"
      "invalid_audience")
  else if !aud.eqStr expectedAudience then
    let shown := R.formatValue aud
    .error (.jwtValidationError
      s!"Invalid audience '{shown}'. Expected '{expectedAudience}'" "invalid_audience")
  else .ok ()

/-- A clock reading and some seconds, added as floats. No reading comes
near 2^53 s, and from there on the sum is left as it is. -/
def addSeconds (now seconds : ℚ) : ℚ :=
  if |now + seconds| < 2 ^ 53 then Double.round (now + seconds) else now + seconds

/-- `now - self.MAX_CLOCK_SKEW_SECONDS`. -/
def minAllowedExp (now : ℚ) : ℚ := addSeconds now (-maxClockSkewSeconds)

/-- `max_allowed_exp`, a sum of two additions. -/
def maxAllowedExp (now : ℚ) : ℚ :=
  addSeconds (addSeconds now strictExpBoundSeconds) maxClockSkewSeconds

/-- `_validate_expiration` at a clock reading. -/
def validateExpiration (claims : Dict) (now : ℚ) : Except PyException Unit :=
  match (claims.get "exp").number? with
  | none =>
    .error (.jwtValidationError "Missing or invalid 'exp' claim in JWS payload" "missing_claim")
  | some exp =>
    let shown := R.formatValue (claims.get "exp")
    -- of NaN both comparisons are false, so it passes
    if exp.lt (.finite (minAllowedExp now)) then
      .error (.jwtValidationError
        s!"Token expired. exp={shown}, now={R.formatTime now}, skew=5s" "expired_token")
    else if (PyFloat.finite (maxAllowedExp now)).lt exp then
      .error (.jwtValidationError (s!"Token expiration too far in future. exp={shown}, " ++
        s!"max_allowed={R.formatTime (maxAllowedExp now)}, bound=60s") "clock_skew_exceeded")
    else .ok ()

/-- `_validate_nhp_sba_intent`. -/
def validateNhpSbaIntent (claims : Dict) : Except PyException Unit :=
  match (claims.get "nhp_sba_intent").dict? with
  | none =>
    .error (.jwtValidationError
      "Missing or invalid 'nhp_sba_intent' claim. Must be a JSON object." "missing_claim")
  | some intent =>
    let actionClass := intent.get "action_class"
    let targetService := intent.get "target_service"
    if actionClass.str?.isNone then
      let shown := R.formatValue actionClass
      .error (.jwtValidationError
        s!"Invalid action_class '{shown}'. Must be a string." "missing_claim")
    else if targetService.str?.isNone then
      let shown := R.formatValue targetService
      .error (.jwtValidationError
        s!"Invalid target_service '{shown}'. Must be a string." "missing_claim")
    else .ok ()

/-- One comparison of `_cross_validate`: the signed claim must equal the
cleartext field. -/
def crossCheck (field cleartext : String) (signed : PyValue) (equal : Bool) :
    Except PyException Unit :=
  if !equal then
    let shown := R.formatValue signed
    .error (.jwtValidationError (s!"Cross-validation failed: cleartext {field} '{cleartext}' " ++
      s!"does not match signed claim '{shown}'") "cross_validation_failed")
  else .ok ()

/-- `_cross_validate`. -/
def crossValidate (payload : NhpKnkPayload) (claims : Dict) : Except PyException Unit := do
  let signedNodeId := claims.get "node_id"
  crossCheck R "node_id" payload.nodeId signedNodeId (signedNodeId.eqStr payload.nodeId)
  let signedTimestamp := claims.get "timestamp"
  crossCheck R "timestamp" (toString payload.timestamp) signedTimestamp
    (signedTimestamp.eqInt payload.timestamp)
  let signedNonce := claims.get "nonce"
  crossCheck R "nonce" payload.nonce signedNonce (signedNonce.eqStr payload.nonce)

/-- `_cleanup_nonces`: list the expired nonces, then delete each. -/
def cleanupNonces (now : ℚ) (seenNonces : AList fun _ : String => ℚ) :
    AList fun _ : String => ℚ :=
  let expired := (seenNonces.entries.filter fun e => nonceExpirySeconds < now - e.2).map Sigma.fst
  expired.foldl (fun seen n => seen.erase n) seenNonces

/-- The error for a nonce already seen. -/
def nonceReuse (nonce : String) : PyException :=
  let shown := String.ofList (nonce.toList.take 16)
  .jwtValidationError s!"Nonce reuse detected: '{shown}...'. Possible replay attack."
    "invalid_nonce"

/-- `_validate_nonce` at a clock reading: look the nonce up, record it,
then forget the expired ones. -/
def validateNonce (nonce : String) (now : ℚ) : Fallible PyException (NhpJwtValidator K) Unit := do
  let self ← read
  if nonce ∈ self.seenNonces then
    raise (nonceReuse nonce)
  else do
    -- only an accepted knock cleans up, after it is recorded
    write fun v => { v with seenNonces := v.seenNonces.insert nonce now }
    write fun v => { v with seenNonces := cleanupNonces now v.seenNonces }

/-- `validate`. -/
def validate (payload : NhpKnkPayload) (clock : ClockReadings) :
    Fallible PyException (NhpJwtValidator K) Dict := do
  let publicKeyBytes ← lift (decodePublicKey payload.publicKey)
  let self ← read
  lift (verifyTrust R self.trustStore payload.nodeId publicKeyBytes)
  let claims ← lift (verifyJwsSignature R payload.jws publicKeyBytes)
  lift (validateIssuer R claims)
  lift (validateAudience R claims)
  lift (validateExpiration R claims clock.expiration)
  lift (validateNhpSbaIntent R claims)
  lift (crossValidate R payload claims)
  validateNonce payload.nonce clock.nonce
  return claims

end NhpJwtValidator

end Knock

end NhpSba
