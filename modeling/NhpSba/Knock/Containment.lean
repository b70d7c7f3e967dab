import NhpSba.Knock.Accepted
/-!
# Knock — which exceptions escape

`verify_compact` promises a `JwsVerificationError` and nothing else, and
the validator catches that and nothing else. One line stands outside every
handler's list: `header.get("alg", "")` on a header that decodes to a JSON
value other than an object raises an `AttributeError`. It is the only one
(`verifyCompact_raises_iff`, `checks_raises_iff`).
-/

namespace NhpSba

namespace Knock

/-- The exception is a `JwsVerificationError`. -/
def PyException.IsJws : PyException → Prop
  | .jwsVerificationError _ => True
  | _ => False

/-- The exception is a `JwtValidationError`. -/
def PyException.IsJwt : PyException → Prop
  | .jwtValidationError _ _ => True
  | _ => False

open PyException Fallible

namespace JwsVerifier

variable {K J : Type} (R : Runtime K J)

/-- A token of three segments whose header decodes to a JSON value that is
no object. -/
def HeaderNotObject (jwsToken : String) : Prop :=
  (jwsToken.toList.splitOn '.').length = 3 ∧
    ∃ header, decodeHeader R ((jwsToken.toList.splitOn '.').headD []) = .ok header ∧
      header.dict? = none

variable {R}

theorem orValueError_raises {α : Type} (x : Except String α) :
    Raises (fun e => ∃ m, e = .valueError m) (orValueError x) := by
  cases x with
  | ok a => exact raises_ok a
  | error m => exact raises_error ⟨m, rfl⟩

theorem decodeHeader_raises (headerB64 : List Char) :
    Raises (fun e => ∃ m, e = .valueError m) (decodeHeader R headerB64) :=
  raises_bind (orValueError_raises _) fun _ _ => orValueError_raises _

/-- Reading a header that decodes to no object. -/
theorem checkHeader_notObject {headerB64 : List Char} {header : PyValue}
    (hdecode : decodeHeader R headerB64 = .ok header) (hdict : header.dict? = none) :
    checkHeader R headerB64 =
      .error (.attributeError s!"'{header.typeName}' object has no attribute 'get'") := by
  have hread : readHeader R headerB64 =
      .error (.attributeError s!"'{header.typeName}' object has no attribute 'get'") := by
    rw [readHeader, hdecode]
    refine bind_eq_error.2 (Or.inr ⟨header, rfl, bind_eq_error.2 (Or.inl ?_)⟩)
    rw [callGet, hdict]
  rw [checkHeader, hread]

/-- Reading any other header raises a `JwsVerificationError` or nothing. -/
theorem checkHeader_raises {headerB64 : List Char}
    (h : ∀ header, decodeHeader R headerB64 = .ok header → header.dict? ≠ none) :
    Raises IsJws (checkHeader R headerB64) := by
  have hread : Raises (fun e => (∃ m, e = .valueError m) ∨ IsJws e) (readHeader R headerB64) := by
    refine raises_bind (fun e he => Or.inl (decodeHeader_raises _ e he)) fun header hheader => ?_
    obtain ⟨d, hd⟩ := Option.ne_none_iff_exists'.1 (h header hheader)
    refine raises_bind ?_ fun alg _ => ?_
    · rw [callGet, hd]
      exact raises_ok _
    · exact raises_ite (raises_ok _) (raises_error (Or.inr trivial))
  -- a `ValueError` of the reader is raised again as a JWS error
  intro e he
  unfold checkHeader at he
  split at he
  · obtain rfl := (Except.error.inj he).symm
    trivial
  · rename_i hnot
    rcases hread e he with ⟨m, rfl⟩ | hjws
    · exact absurd he (hnot m)
    · exact hjws

theorem bytesToJwk_raises (publicKeyBytes : Bytes) :
    Raises IsJws (bytesToJwk R publicKeyBytes) := by
  unfold bytesToJwk
  refine raises_ite (raises_error trivial) ?_
  dsimp only
  split
  · exact raises_ok _
  · exact raises_error trivial

theorem readClaims_raises (jwsToken : String) (jwkKey : J) :
    Raises IsJws (readClaims R jwsToken jwkKey) := by
  unfold readClaims
  split
  · exact raises_ok _
  all_goals exact raises_error trivial

/-- Where the header is no object, `verify_compact` raises an
`AttributeError`. -/
theorem verifyCompact_notObject {jwsToken : String} (publicKeyBytes : Bytes)
    (h : HeaderNotObject R jwsToken) :
    ∃ m, verifyCompact R jwsToken publicKeyBytes = .error (.attributeError m) := by
  obtain ⟨hparts, header, hdecode, hdict⟩ := h
  have hne : jwsToken ≠ "" := by
    rintro rfl
    exact absurd hparts (by decide)
  refine ⟨s!"'{header.typeName}' object has no attribute 'get'", ?_⟩
  unfold verifyCompact
  rw [if_neg hne, if_neg (not_not.2 hparts)]
  exact bind_eq_error.2 (Or.inl (checkHeader_notObject hdecode hdict))

/-- Everywhere else it raises a `JwsVerificationError` or nothing. -/
theorem verifyCompact_raises {jwsToken : String} (publicKeyBytes : Bytes)
    (h : ¬ HeaderNotObject R jwsToken) : Raises IsJws (verifyCompact R jwsToken publicKeyBytes) := by
  unfold verifyCompact
  by_cases hempty : jwsToken = ""
  · rw [if_pos hempty]
    exact raises_error trivial
  · rw [if_neg hempty]
    by_cases hparts : (jwsToken.toList.splitOn '.').length = 3
    · rw [if_neg (not_not.2 hparts)]
      have hcheck : Raises IsJws (checkHeader R ((jwsToken.toList.splitOn '.').headD [])) :=
        checkHeader_raises fun header hdecode hdict => h ⟨hparts, header, hdecode, hdict⟩
      exact raises_bind hcheck fun _ _ =>
        raises_bind (bytesToJwk_raises _) fun _ _ => readClaims_raises _ _
    · rw [if_pos hparts]
      exact raises_error trivial

/-- **When `verify_compact` keeps its promise**: it raises nothing but a
`JwsVerificationError` exactly when the header is an object or does not
decode. -/
theorem verifyCompact_raises_iff (jwsToken : String) (publicKeyBytes : Bytes) :
    Raises IsJws (verifyCompact R jwsToken publicKeyBytes) ↔ ¬ HeaderNotObject R jwsToken := by
  refine ⟨fun hraises h => ?_, verifyCompact_raises publicKeyBytes⟩
  obtain ⟨m, hm⟩ := verifyCompact_notObject publicKeyBytes h
  exact hraises _ hm

end JwsVerifier

namespace NhpJwtValidator

open JwsVerifier

variable {K J : Type} (R : Runtime K J)

/-- A knock of a trusted node and key whose token's header is no object. -/
def Escapes (store : TrustStore K) (payload : NhpKnkPayload) : Prop :=
  ∃ publicKeyBytes, decodePublicKey payload.publicKey = .ok publicKeyBytes ∧
    store.isTrusted R payload.nodeId publicKeyBytes = true ∧ HeaderNotObject R payload.jws

variable {R}

theorem decodePublicKey_raises (publicKeyB64 : String) :
    Raises IsJwt (decodePublicKey publicKeyB64) := by
  unfold decodePublicKey
  split
  · exact raises_ite (raises_error trivial) (raises_ok _)
  · exact raises_error trivial

theorem verifyTrust_eq_ok {store : TrustStore K} {nodeId : String} {publicKeyBytes : Bytes} :
    verifyTrust R store nodeId publicKeyBytes = .ok () ↔
      store.isTrusted R nodeId publicKeyBytes = true := by
  unfold verifyTrust
  cases store.isTrusted R nodeId publicKeyBytes <;> simp

theorem verifyTrust_raises (store : TrustStore K) (nodeId : String) (publicKeyBytes : Bytes) :
    Raises IsJwt (verifyTrust R store nodeId publicKeyBytes) := by
  unfold verifyTrust
  exact raises_ite (raises_error trivial) (raises_ok _)

/-- The validator turns what `verify_compact` may raise into its own. -/
theorem verifyJwsSignature_raises {jwsToken : String} {publicKeyBytes : Bytes}
    (h : Raises IsJws (verifyCompact R jwsToken publicKeyBytes)) :
    Raises IsJwt (verifyJwsSignature R jwsToken publicKeyBytes) := by
  intro e he
  unfold verifyJwsSignature at he
  split at he
  · obtain rfl := (Except.error.inj he).symm
    trivial
  · rename_i hnot
    -- an error that falls through is no `JwsVerificationError`
    have hjws := h e he
    cases e with
    | jwsVerificationError m => exact absurd he (hnot m)
    | _ => exact hjws.elim

theorem verifyJwsSignature_notObject {jwsToken : String} (publicKeyBytes : Bytes)
    (h : HeaderNotObject R jwsToken) :
    ∃ m, verifyJwsSignature R jwsToken publicKeyBytes = .error (.attributeError m) := by
  obtain ⟨m, hm⟩ := verifyCompact_notObject publicKeyBytes h
  exact ⟨m, by rw [verifyJwsSignature, hm]⟩

theorem validateIssuer_raises (claims : Dict) : Raises IsJwt (validateIssuer R claims) := by
  unfold validateIssuer
  refine raises_ite (raises_error trivial) ?_
  exact raises_ite (raises_error trivial) (raises_ok _)

theorem validateAudience_raises (claims : Dict) : Raises IsJwt (validateAudience R claims) := by
  unfold validateAudience
  refine raises_ite (raises_error trivial) ?_
  exact raises_ite (raises_error trivial) (raises_ok _)

theorem validateExpiration_raises (claims : Dict) (now : ℚ) :
    Raises IsJwt (validateExpiration R claims now) := by
  unfold validateExpiration
  split
  · exact raises_error trivial
  · refine raises_ite (raises_error trivial) ?_
    exact raises_ite (raises_error trivial) (raises_ok _)

theorem validateNhpSbaIntent_raises (claims : Dict) :
    Raises IsJwt (validateNhpSbaIntent R claims) := by
  unfold validateNhpSbaIntent
  split
  · exact raises_error trivial
  · refine raises_ite (raises_error trivial) ?_
    exact raises_ite (raises_error trivial) (raises_ok _)

theorem crossCheck_raises (field cleartext : String) (signed : PyValue) (equal : Bool) :
    Raises IsJwt (crossCheck R field cleartext signed equal) := by
  unfold crossCheck
  exact raises_ite (raises_error trivial) (raises_ok _)

theorem crossValidate_raises (payload : NhpKnkPayload) (claims : Dict) :
    Raises IsJwt (crossValidate R payload claims) :=
  raises_bind (crossCheck_raises _ _ _ _) fun _ _ =>
    raises_bind (crossCheck_raises _ _ _ _) fun _ _ => crossCheck_raises _ _ _ _

/-- **When the checks keep their promise**: they raise nothing but a
`JwtValidationError` except on the knocks that escape. -/
theorem checks_raises_iff {store : TrustStore K} {payload : NhpKnkPayload} (now : ℚ) :
    Raises IsJwt (checks R store payload now) ↔ ¬ Escapes R store payload := by
  constructor
  · rintro hraises ⟨publicKeyBytes, hkey, htrusted, hheader⟩
    obtain ⟨m, hm⟩ := verifyJwsSignature_notObject publicKeyBytes hheader
    refine hraises (.attributeError m) (bind_eq_error.2 (Or.inr ⟨publicKeyBytes, hkey, ?_⟩))
    refine bind_eq_error.2 (Or.inr ⟨(), verifyTrust_eq_ok.2 htrusted, ?_⟩)
    exact bind_eq_error.2 (Or.inl hm)
  · intro h
    -- stage by stage, in the order of the checks
    refine raises_bind (decodePublicKey_raises _) fun publicKeyBytes hkey => ?_
    refine raises_bind (verifyTrust_raises _ _ _) fun _ htrust => ?_
    have hjws : Raises IsJws (verifyCompact R payload.jws publicKeyBytes) :=
      verifyCompact_raises publicKeyBytes fun hheader =>
        h ⟨publicKeyBytes, hkey, verifyTrust_eq_ok.1 htrust, hheader⟩
    refine raises_bind (verifyJwsSignature_raises hjws) fun claims _ => ?_
    refine raises_bind (validateIssuer_raises _) fun _ _ => ?_
    refine raises_bind (validateAudience_raises _) fun _ _ => ?_
    refine raises_bind (validateExpiration_raises _ _) fun _ _ => ?_
    refine raises_bind (validateNhpSbaIntent_raises _) fun _ _ => ?_
    exact raises_bind (crossValidate_raises _ _) fun _ _ => raises_ok _

/-- **When the validator keeps its promise.** -/
theorem validate_raises_iff {v : NhpJwtValidator K} {payload : NhpKnkPayload}
    (clock : ClockReadings) :
    Raises IsJwt (call (validate R payload clock) v).1 ↔ ¬ Escapes R v.trustStore payload := by
  rw [← checks_raises_iff clock.expiration, call_validate]
  cases hchecks : checks R v.trustStore payload clock.expiration with
  | error exc => exact Iff.rfl
  | ok claims =>
    refine ⟨fun _ => raises_ok _, fun _ => ?_⟩
    by_cases hseen : payload.nonce ∈ v.seenNonces
    · simp only [if_pos hseen]
      exact raises_error trivial
    · simp only [if_neg hseen]
      exact raises_ok _

end NhpJwtValidator

end Knock

end NhpSba
