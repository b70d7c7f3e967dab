import NhpSba.Knock.Model.Runtime
import NhpSba.Python.Base64
/-!
# Knock — JWS verification

`JwsVerifier.verify_compact`, stage by stage: the header is decoded under
a handler for `ValueError` alone, the key is built, and the payload is
opened under a handler for every exception.
-/

namespace NhpSba

namespace Knock

namespace JwsVerifier

variable {K J : Type} (R : Runtime K J)

/-- `_bytes_to_jwk`. -/
def bytesToJwk (publicKeyBytes : Bytes) : Except PyException J :=
  if publicKeyBytes.length ≠ 32 then
    .error (.jwsVerificationError
      s!"Ed25519 public key must be exactly 32 bytes, got {publicKeyBytes.length}")
  else
    let keyB64 := String.ofList (Base64.stripPadding (Base64.urlsafeB64encode publicKeyBytes))
    match R.jwk keyB64 with
    | .ok jwkObj => .ok jwkObj
    | .error exc =>
      .error (.jwsVerificationError
        s!"Failed to create JWK from Ed25519 key bytes: {exc.message}")

/-- The JSON value a header segment decodes to. -/
def decodeHeader (headerB64 : List Char) : Except PyException PyValue := do
  let headerJson ← orValueError (Base64.urlsafeB64decode (Base64.restorePadding headerB64))
  orValueError (R.jsonLoads (.inl headerJson))

/-- The body of the first `try`: the header must name EdDSA. -/
def readHeader (headerB64 : List Char) : Except PyException Unit := do
  let header ← decodeHeader R headerB64
  -- the header may be any JSON value here, and only an object has `get`
  let alg ← callGet header "alg" (.str "")
  if alg.eqStr "EdDSA" then .ok ()
  else
    let shown := R.formatValue alg
    .error (.jwsVerificationError
      s!"Unsupported JWS algorithm: '{shown}'. Only EdDSA (Ed25519) is allowed.")

/-- The first `try`, whose handler catches `ValueError`s only. -/
def checkHeader (headerB64 : List Char) : Except PyException Unit :=
  match readHeader R headerB64 with
  | .error (.valueError exc) =>
    .error (.jwsVerificationError s!"Failed to decode JWS header: {exc}")
  | result => result

/-- The body of the second `try`: verify, decode, and list the claims'
keys for the log. -/
def openClaims (jwsToken : String) (jwkKey : J) : Except PyException Dict := do
  let payloadJson ← R.jwsOpen jwsToken jwkKey
  match payloadJson with
  | .inl data => do
    let text ← utf8Decode R data
    let claims ← orValueError (R.jsonLoads (.inr text))
    callKeys claims
  | .inr text => do
    let claims ← orValueError (R.jsonLoads (.inr text))
    callKeys claims

/-- The second `try`, whose handlers catch every exception. -/
def readClaims (jwsToken : String) (jwkKey : J) : Except PyException Dict :=
  match openClaims R jwsToken jwkKey with
  | .ok claims => .ok claims
  | .error (.invalidJWSSignature exc) =>
    .error (.jwsVerificationError s!"Ed25519 signature verification failed: {exc}")
  | .error (.invalidJWSObject exc) =>
    .error (.jwsVerificationError s!"Invalid JWS object: {exc}")
  | .error (.valueError exc) =>
    .error (.jwsVerificationError s!"Failed to decode JWS payload: {exc}")
  | .error exc =>
    .error (.jwsVerificationError s!"Unexpected JWS verification error: {exc.message}")

/-- `verify_compact`. -/
def verifyCompact (jwsToken : String) (publicKeyBytes : Bytes) : Except PyException Dict :=
  if jwsToken = "" then .error (.jwsVerificationError "JWS token must be a non-empty string")
  else
    let parts := jwsToken.toList.splitOn '.'
    if parts.length ≠ 3 then
      .error (.jwsVerificationError
        s!"Invalid compact JWS format: expected 3 parts, got {parts.length}")
    else do
      checkHeader R (parts.headD [])
      let jwkKey ← bytesToJwk R publicKeyBytes
      readClaims R jwsToken jwkKey

end JwsVerifier

end Knock

end NhpSba
