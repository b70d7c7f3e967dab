import NhpSba.Knock.Model.Jws
/-!
# Knock — JWS creation

What the signing side takes from its packages, and
`JwsVerifier.create_compact_eddsa`. It serialises the token it has signed,
reads the serialisation back as JSON, and only then returns it.
-/

namespace NhpSba

namespace Knock

/-- `text.encode("utf-8")`. -/
def encodeUtf8 (text : String) : Bytes := text.toUTF8.data.toList

/-- `base64.urlsafe_b64encode(data).rstrip(b"=").decode("ascii")`. -/
def unpadded (data : Bytes) : String :=
  String.ofList (Base64.stripPadding (Base64.urlsafeB64encode data))

/-- What a signer takes from its packages; `J` is the type of JWK
objects. -/
structure Signing (J : Type) where
  /-- `json.dumps`. -/
  jsonDumps : PyValue → String
  /-- `jwk.JWK(kty="OKP", crv="Ed25519", d=d, x=x)`. -/
  privateJwk : (d x : String) → Except PyException J
  /-- `key.export_public(as_dict=True)["x"]`. -/
  exportX : J → String
  /-- `JWS(payload)`, `add_signature(key, alg, protected=header)`, then
  `serialize(compact=True)`. -/
  compact : (payload : Bytes) → (key : J) → (alg : Option String) → (header : String) →
    Except PyException String

namespace JwsVerifier

variable {K J : Type} (R : Runtime K J) (S : Signing J)

/-- The header that `create_compact_eddsa` signs under. -/
def creationHeader : PyValue := .dict [("alg", .str "EdDSA"), ("typ", .str "JWS")]

/-- `create_compact_eddsa`, up to its first serialisation. -/
def signCompact (payloadClaims : Dict) (privateKeyBytes : Bytes) : Except PyException String := do
  let keyB64 := unpadded (privateKeyBytes.take 32)
  let jwkKey ← S.privateJwk keyB64 (unpadded (privateKeyBytes.drop 32))
  let payloadBytes := encodeUtf8 (S.jsonDumps (.dict payloadClaims))
  S.compact payloadBytes jwkKey (some "EdDSA") (S.jsonDumps creationHeader)

/-- `create_compact_eddsa`. -/
def createCompactEddsa (payloadClaims : Dict) (privateKeyBytes : Bytes) :
    Except PyException String := do
  let token ← signCompact S payloadClaims privateKeyBytes
  let jsonObj ← orValueError (R.jsonLoads (.inr token))
  match jsonObj.str? with
  | some text => return text
  | none => return token

end JwsVerifier

end Knock

end NhpSba
