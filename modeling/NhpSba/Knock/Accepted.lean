import NhpSba.Knock.Expiration
import NhpSba.Knock.Sample
/-!
# Knock — what is signed and fresh passes the checks

The sample packages bear out the pipeline end to end: a knock whose token
carries the sample claims, signed with the key its node is trusted with,
passes every check while its token lives (`checks_knock`).
-/

namespace NhpSba

namespace Knock

namespace Sample

open NhpJwtValidator

variable {texts : List (String × PyValue)}

theorem decodePublicKey_key (byte : UInt8) :
    decodePublicKey (String.ofList (Base64.b64encode (key byte))) = .ok (key byte) :=
  decodePublicKey_b64encode (length_key byte)

/-- A key a store has for a node is trusted for it. -/
theorem isTrusted_key {trustStore : TrustStore Bytes} {nodeId : String} {byte : UInt8}
    (h : trustStore.keyBytesMap.lookup nodeId = some (key byte)) :
    trustStore.isTrusted (runtime texts) nodeId (key byte) = true :=
  isTrusted_of_lookup h (length_key byte) (fromPublicBytes_key byte)

/-- **A signed and fresh knock passes the checks**, of packages that know
the texts of its token. -/
theorem checks_of_texts {trustStore : TrustStore Bytes} {nodeId nonce : String} {byte : UInt8}
    {issued edns : ℤ} {hnode : 1 ≤ nodeId.length ∧ nodeId.length ≤ 256}
    {hnonce : 16 ≤ nonce.length ∧ nonce.length ≤ 64} {hissued : 0 < issued} {now : ℚ}
    (hheader : texts.lookup (dumps 2 header) = some header)
    (hclaims : texts.lookup (dumps 2 (claims nodeId nonce issued edns)) =
      some (claims nodeId nonce issued edns))
    (htrust : trustStore.keyBytesMap.lookup nodeId = some (key byte))
    (hfrom : (issued : ℚ) ≤ now + 5) (hto : now ≤ issued + 65) :
    checks (runtime texts) trustStore (knock nodeId nonce byte issued edns hnode hnonce hissued)
      now = .ok (claimItems nodeId nonce issued edns) := by
  have hjws : verifyJwsSignature (runtime texts)
      (token (dumps 2 header) (dumps 2 (claims nodeId nonce issued edns)) byte) (key byte) =
        .ok (claimItems nodeId nonce issued edns) := by
    rw [verifyJwsSignature, verifyCompact_token hheader rfl hclaims]
  have hiss : (claimItems nodeId nonce issued edns).get "iss" = .str "nhp-sba-agent" := rfl
  have haud : (claimItems nodeId nonce issued edns).get "aud" = .str "nhp-sba-server" := rfl
  have htimestamp : (claimItems nodeId nonce issued edns).get "timestamp" = .int issued := rfl
  have hexp : expClaim (claimItems nodeId nonce issued edns) =
      some (.finite ((issued + 60 : ℤ) : ℚ)) := rfl
  have htrusted : trustStore.isTrusted (runtime texts) nodeId (key byte) = true :=
    isTrusted_key htrust
  refine checks_eq_ok.2 ⟨key byte, decodePublicKey_key byte, verifyTrust_of_isTrusted htrusted,
    hjws, ?_, ?_, (validateExpiration_finite hexp).2 ⟨?_, ?_⟩, ?_,
    crossValidate_eq_ok.2 ⟨?_, ?_, ?_⟩⟩
  · simp [validateIssuer, hiss, PyValue.truthy, PyValue.str?, validIssuers]
  · simp [validateAudience, haud, PyValue.truthy, PyValue.str?, expectedAudience]
  · -- neither expired nor valid for too long
    exact minAllowedExp_le_intCast (by push_cast; linarith)
  · exact intCast_le_maxAllowedExp (by push_cast; linarith)
  · rfl
  · rfl
  · rw [htimestamp]
    exact decide_eq_true rfl
  · rfl

/-- The packages that know the texts of some signed claims do. -/
theorem checks_knock {signed : List PyValue} {trustStore : TrustStore Bytes}
    {nodeId nonce : String} {byte : UInt8} {issued edns : ℤ}
    {hnode : 1 ≤ nodeId.length ∧ nodeId.length ≤ 256}
    {hnonce : 16 ≤ nonce.length ∧ nonce.length ≤ 64} {hissued : 0 < issued} {now : ℚ}
    (hdistinct : ((header :: signed).map (dumps 2)).Nodup)
    (hsigned : claims nodeId nonce issued edns ∈ signed)
    (htrust : trustStore.keyBytesMap.lookup nodeId = some (key byte))
    (hfrom : (issued : ℚ) ≤ now + 5) (hto : now ≤ issued + 65) :
    checks (packages signed) trustStore (knock nodeId nonce byte issued edns hnode hnonce hissued)
      now = .ok (claimItems nodeId nonce issued edns) :=
  checks_of_texts (lookup_table hdistinct List.mem_cons_self)
    (lookup_table hdistinct (List.mem_cons_of_mem header hsigned)) htrust hfrom hto

end Sample

end Knock

end NhpSba
