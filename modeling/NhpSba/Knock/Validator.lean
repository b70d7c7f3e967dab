import NhpSba.Knock.Model.Validator
import Mathlib.Tactic.Linarith
/-!
# Knock — what one call of the validator does

The first six steps of `validate` read the knock, the trust store and the
clock, and nothing else; together they are `checks`. `call_validate` states
the whole of what a call can do in terms of them, and every later result
about the validator starts from it: a call that fails leaves the validator
as it was, and one that succeeds adds its nonce and forgets expired ones.
-/

namespace NhpSba

namespace Knock

open Fallible

namespace NhpJwtValidator

variable {K J : Type} {R : Runtime K J}

/-! ## The table of nonces -/

theorem lookup_foldl_erase (expired : List String) (seen : AList fun _ : String => ℚ)
    (n : String) :
    (expired.foldl (fun seen n => seen.erase n) seen).lookup n =
      if n ∈ expired then none else seen.lookup n := by
  induction expired generalizing seen with
  | nil => simp
  | cons e es ih =>
    rw [List.foldl_cons, ih]
    by_cases hne : n = e
    · subst hne
      simp
    · rw [AList.lookup_erase_ne hne]
      simp [hne]

/-- **What the cleanup forgets**: exactly the nonces seen more than the
expiry ago. -/
theorem lookup_cleanupNonces (now : ℚ) (seen : AList fun _ : String => ℚ) (n : String) :
    (cleanupNonces now seen).lookup n =
      (seen.lookup n).filter fun ts => decide (now ≤ ts + nonceExpirySeconds) := by
  -- which nonces the sweep collects
  have hmem : n ∈ (seen.entries.filter fun e => nonceExpirySeconds < now - e.2).map Sigma.fst ↔
      ∃ ts, seen.lookup n = some ts ∧ nonceExpirySeconds < now - ts := by
    simp only [List.mem_map, List.mem_filter, decide_eq_true_eq]
    constructor
    · rintro ⟨⟨k, ts⟩, ⟨he, hts⟩, rfl⟩
      exact ⟨ts, AList.mem_lookup_iff.2 he, hts⟩
    · rintro ⟨ts, hlook, hts⟩
      exact ⟨⟨n, ts⟩, ⟨AList.mem_lookup_iff.1 hlook, hts⟩, rfl⟩
  rw [cleanupNonces, lookup_foldl_erase]
  cases hlook : seen.lookup n with
  | none =>
    rw [hlook] at hmem
    simp
  | some ts =>
    rw [hlook] at hmem
    simp only [Option.some.injEq, exists_eq_left'] at hmem
    by_cases hts : nonceExpirySeconds < now - ts
    · have : ¬ now ≤ ts + nonceExpirySeconds := by linarith
      rw [if_pos (hmem.2 hts)]
      simp [Option.filter, this]
    · have : now ≤ ts + nonceExpirySeconds := by linarith
      rw [if_neg (fun h => hts (hmem.1 h))]
      simp [Option.filter, this]

/-- A nonce just recorded survives the cleanup of its own call. -/
theorem lookup_cleanup_insert_self (now : ℚ) (seen : AList fun _ : String => ℚ) (n : String) :
    (cleanupNonces now (seen.insert n now)).lookup n = some now := by
  rw [lookup_cleanupNonces, AList.lookup_insert]
  simp [Option.filter, nonceExpirySeconds]

theorem lookup_cleanup_insert_ne {now : ℚ} {seen : AList fun _ : String => ℚ} {n m : String}
    (h : m ≠ n) :
    (cleanupNonces now (seen.insert n now)).lookup m =
      (seen.lookup m).filter fun ts => decide (now ≤ ts + nonceExpirySeconds) := by
  rw [lookup_cleanupNonces, AList.lookup_insert_ne h]

/-! ## One call -/

variable (R)

/-- The first six steps of `validate`. -/
def checks (store : TrustStore K) (payload : NhpKnkPayload) (now : ℚ) :
    Except PyException Dict := do
  let publicKeyBytes ← decodePublicKey payload.publicKey
  verifyTrust R store payload.nodeId publicKeyBytes
  let claims ← verifyJwsSignature R payload.jws publicKeyBytes
  validateIssuer R claims
  validateAudience R claims
  validateExpiration R claims now
  validateNhpSbaIntent R claims
  crossValidate R payload claims
  return claims

/-- The validator after it accepted a nonce. -/
def accept (v : NhpJwtValidator K) (nonce : String) (now : ℚ) : NhpJwtValidator K :=
  { v with seenNonces := cleanupNonces now (v.seenNonces.insert nonce now) }

variable {R}

/-! ## What the first steps accept -/

/-- An encoded key of 32 bytes is decoded. -/
theorem decodePublicKey_b64encode {publicKey : Bytes} (hlen : publicKey.length = 32) :
    decodePublicKey (String.ofList (Base64.b64encode publicKey)) = .ok publicKey := by
  rw [decodePublicKey, String.toList_ofList, Base64.b64decode_b64encode]
  exact if_neg (not_not.2 hlen)

/-- The key that a store has for a node is trusted for it. -/
theorem isTrusted_of_lookup {store : TrustStore K} {nodeId : String} {publicKey : Bytes} {key : K}
    (hlookup : store.keyBytesMap.lookup nodeId = some publicKey) (hlen : publicKey.length = 32)
    (hkey : R.fromPublicBytes publicKey = .ok key) :
    store.isTrusted R nodeId publicKey = true := by
  simp [TrustStore.isTrusted, hlookup, hlen, hkey]

theorem verifyTrust_of_isTrusted {store : TrustStore K} {nodeId : String} {publicKey : Bytes}
    (h : store.isTrusted R nodeId publicKey = true) :
    verifyTrust R store nodeId publicKey = .ok () := by
  rw [verifyTrust, h]
  rfl

/-! ## What a call does -/

/-- The seventh step: refuse a nonce that is there, record one that is
not. -/
theorem call_validateNonce (v : NhpJwtValidator K) (nonce : String) (now : ℚ) :
    call (validateNonce nonce now) v =
      if nonce ∈ v.seenNonces then (.error (nonceReuse nonce), v)
      else (.ok (), v.accept nonce now) := by
  rw [validateNonce, call_read_bind]
  split
  · rw [call_raise]
  · rw [call_write_bind, call_write]
    rfl

/-- **What one call of the validator can do.** It fails a check, or it
meets a nonce it has seen, and either way leaves the validator alone; or
it accepts, and records the nonce. -/
theorem call_validate (v : NhpJwtValidator K) (payload : NhpKnkPayload) (clock : ClockReadings) :
    call (validate R payload clock) v =
      match checks R v.trustStore payload clock.expiration with
      | .ok claims =>
        if payload.nonce ∈ v.seenNonces then (.error (nonceReuse payload.nonce), v)
        else (.ok claims, v.accept payload.nonce clock.nonce)
      | .error exc => (.error exc, v) := by
  have hstages : call (validate R payload clock) v =
      proceed (checks R v.trustStore payload clock.expiration) v fun claims =>
        if payload.nonce ∈ v.seenNonces then (.error (nonceReuse payload.nonce), v)
        else (.ok claims, v.accept payload.nonce clock.nonce) := by
    unfold validate checks
    -- every stage but the last leaves the validator alone
    refine call_stage fun publicKeyBytes => ?_
    rw [call_read_bind]
    refine call_stage fun _ => ?_
    refine call_stage fun claims => ?_
    refine call_stage fun _ => ?_
    refine call_stage fun _ => ?_
    refine call_stage fun _ => ?_
    refine call_stage fun _ => ?_
    refine call_stage fun _ => ?_
    rw [call_bind, call_validateNonce]
    by_cases hseen : payload.nonce ∈ v.seenNonces
    · simp only [if_pos hseen]
      rfl
    · simp only [if_neg hseen]
      rfl
  rw [hstages]
  cases checks R v.trustStore payload clock.expiration <;> rfl

/-- A call accepts exactly when the checks pass and the nonce is new. -/
theorem call_validate_eq_ok {v : NhpJwtValidator K} {payload : NhpKnkPayload}
    {clock : ClockReadings} {claims : Dict} :
    (call (validate R payload clock) v).1 = .ok claims ↔
      checks R v.trustStore payload clock.expiration = .ok claims ∧
        payload.nonce ∉ v.seenNonces := by
  rw [call_validate]
  cases checks R v.trustStore payload clock.expiration with
  | error exc => simp
  | ok c =>
    by_cases hseen : payload.nonce ∈ v.seenNonces
    · simp [hseen]
    · simp [hseen]

/-- A knock that passes the checks with a nonce seen before is refused. -/
theorem call_validate_seen {v : NhpJwtValidator K} {payload : NhpKnkPayload}
    {clock : ClockReadings} {claims : Dict}
    (hchecks : checks R v.trustStore payload clock.expiration = .ok claims)
    (hseen : payload.nonce ∈ v.seenNonces) :
    (call (validate R payload clock) v).1 = .error (nonceReuse payload.nonce) := by
  rw [call_validate, hchecks]
  simp only [if_pos hseen]

/-- **A call that fails changes nothing.** -/
theorem call_validate_error {v : NhpJwtValidator K} {payload : NhpKnkPayload}
    {clock : ClockReadings} {exc : PyException}
    (h : (call (validate R payload clock) v).1 = .error exc) :
    (call (validate R payload clock) v).2 = v := by
  rw [call_validate] at h ⊢
  cases hc : checks R v.trustStore payload clock.expiration with
  | error exc => rfl
  | ok claims =>
    rw [hc] at h
    by_cases hseen : payload.nonce ∈ v.seenNonces
    · simp only [if_pos hseen]
    · simp [hseen] at h

/-! ## What the checks read -/

/-- **The checks, taken apart.** -/
theorem checks_eq_ok {store : TrustStore K} {payload : NhpKnkPayload} {now : ℚ} {claims : Dict} :
    checks R store payload now = .ok claims ↔
      ∃ publicKeyBytes, decodePublicKey payload.publicKey = .ok publicKeyBytes ∧
        verifyTrust R store payload.nodeId publicKeyBytes = .ok () ∧
        verifyJwsSignature R payload.jws publicKeyBytes = .ok claims ∧
        validateIssuer R claims = .ok () ∧ validateAudience R claims = .ok () ∧
        validateExpiration R claims now = .ok () ∧ validateNhpSbaIntent R claims = .ok () ∧
        crossValidate R payload claims = .ok () := by
  simp only [checks, bind_eq_ok]
  constructor
  · rintro ⟨raw, hraw, _, ht, c, hj, _, hi, _, ha, _, he, _, hn, _, hx, hc⟩
    obtain rfl : c = claims := by injection hc
    exact ⟨raw, hraw, ht, hj, hi, ha, he, hn, hx⟩
  · rintro ⟨raw, hraw, ht, hj, hi, ha, he, hn, hx⟩
    exact ⟨raw, hraw, (), ht, claims, hj, (), hi, (), ha, (), he, (), hn, (), hx, rfl⟩

/-- **What binds the cleartext.** The node id, the timestamp and the nonce
of a payload that passes cross-validation are the signed ones. -/
theorem crossValidate_eq_ok {payload : NhpKnkPayload} {claims : Dict} :
    crossValidate R payload claims = .ok () ↔
      claims.get "node_id" = .str payload.nodeId ∧
        (claims.get "timestamp").eqInt payload.timestamp = true ∧
        claims.get "nonce" = .str payload.nonce := by
  have hcheck : ∀ (field cleartext : String) (signed : PyValue) (equal : Bool),
      crossCheck R field cleartext signed equal = .ok () ↔ equal = true := by
    intro field cleartext signed equal
    cases equal <;> simp [crossCheck]
  simp only [crossValidate, bind_eq_ok, hcheck, PyValue.eqStr_iff, exists_and_left]
  tauto

end NhpJwtValidator

end Knock

end NhpSba
