import NhpSba.Session.Model.Keys
/-!
# The session keys work in neither direction

Both peers run the same derivation on the same secret, so both hold the
same pair of keys in the same roles (`sessionKeys_agree`). What one seals
with its encryption key the other tries with its decryption key, which is
the other half of the derivation, and fails (`oneWay`); and both
directions are sealed under one key.
-/

namespace NhpSba

namespace Session

variable {Secret : Type} {X : KeyExchange Secret 32} {H : Hkdf}
  {A : Aead (Octets 32) (Octets 12) 16}

/-- The two halves of the derivation differ, for every secret. -/
def HalvesDiffer (H : Hkdf) : Prop :=
  ∀ sharedSecret keys, deriveSessionKeys H sharedSecret = .ok keys →
    keys.encryptionKey ≠ keys.decryptionKey

/-- **What session keys are for.** Each peer gets its keys; what either
seals with its encryption key the other opens with its decryption key;
and the two directions have keys of their own. -/
def WorkBothWays (H : Hkdf) (A : Aead (Octets 32) (Octets 12) 16)
    (a b : NhpX25519KeyPair X) : Prop :=
  ∃ keysA keysB,
    sessionKeys H a b.publicKeyBytes = .ok keysA ∧
    sessionKeys H b a.publicKeyBytes = .ok keysB ∧
    (∀ nonce plaintext ciphertext,
      encrypt A keysA.encryptionKey nonce plaintext = .ok ciphertext →
        decrypt A keysB.decryptionKey nonce ciphertext = .ok plaintext) ∧
    (∀ nonce plaintext ciphertext,
      encrypt A keysB.encryptionKey nonce plaintext = .ok ciphertext →
        decrypt A keysA.decryptionKey nonce ciphertext = .ok plaintext) ∧
    keysA.encryptionKey ≠ keysB.encryptionKey

/-- The derivation of 76 bytes does not fail. -/
theorem deriveSessionKeys_ok (hexp : H.Expands 32) (sharedSecret : List UInt8) :
    ∃ keys, deriveSessionKeys H sharedSecret = .ok keys := by
  obtain ⟨okm, hokm⟩ := hexp salt sharedSecret info 76 (by omega)
  rw [deriveSessionKeys, hokm]
  exact ⟨_, rfl⟩

/-- **Both peers derive the same keys**, in the same roles. -/
theorem sessionKeys_agree (hsym : X.Symmetric) (a b : NhpX25519KeyPair X) :
    sessionKeys H a b.publicKeyBytes = sessionKeys H b a.publicKeyBytes := by
  show deriveSessionKeys H (X.diffieHellman a.secret b.publicKeyBytes).toList
    = deriveSessionKeys H (X.diffieHellman b.secret a.publicKeyBytes).toList
  rw [a.paired, b.paired, hsym a.secret b.secret]

/-- What a key seals, another key does not open. -/
theorem decrypt_of_other_key (hkeys : A.KeyBound) {key other : Octets 32} {nonce : Octets 12}
    {plaintext ciphertext : List UInt8} (hne : other ≠ key)
    (h : encrypt A key nonce plaintext = .ok ciphertext) :
    decrypt A other nonce ciphertext = .error "Decryption/authentication failed: aead::Error" := by
  unfold encrypt at h
  split at h
  · next front tag hsealed =>
    obtain rfl := Except.ok.inj h
    rw [decrypt, splitTag_eq_some.2 rfl]
    simp only [hkeys key other nonce [] plaintext front tag hne hsealed]
  · cases h

/-- **No pair of peers can talk.** Whatever the two key pairs, both sides
derive the same keys, so what either seals the other fails to open,
whatever the nonce and the plaintext, and both directions use one key. -/
theorem oneWay (hsym : X.Symmetric) (hexp : H.Expands 32) (hdiff : HalvesDiffer H)
    (hkeys : A.KeyBound) (a b : NhpX25519KeyPair X) :
    ¬WorkBothWays H A a b ∧
    ∃ keys, sessionKeys H a b.publicKeyBytes = .ok keys ∧
      sessionKeys H b a.publicKeyBytes = .ok keys ∧
      ∀ nonce plaintext ciphertext,
        encrypt A keys.encryptionKey nonce plaintext = .ok ciphertext →
          decrypt A keys.decryptionKey nonce ciphertext
            = .error "Decryption/authentication failed: aead::Error" := by
  -- both sides derive the same pair, not each the other half
  have hagree := sessionKeys_agree (H := H) hsym a b
  constructor
  · rintro ⟨keysA, keysB, hA, hB, -, -, hown⟩
    rw [hA, hB] at hagree
    exact hown (congrArg _ (Except.ok.inj hagree))
  · obtain ⟨keys, hderive⟩ :=
      deriveSessionKeys_ok hexp (X.diffieHellman a.secret b.publicKeyBytes).toList
    refine ⟨keys, hderive, hagree ▸ hderive, fun nonce plaintext ciphertext hseal => ?_⟩
    exact decrypt_of_other_key hkeys (hdiff _ keys hderive).symm hseal

/-! ## Two peers -/

/-- One peer's secret, and its public key. -/
def aliceSecret : Octets 32 := List.Vector.replicate 32 0x01

def alicePublic : Octets 32 :=
  ⟨[0xa4, 0xe0, 0x92, 0x92, 0xb6, 0x51, 0xc2, 0x78, 0xb9, 0x77, 0x2c, 0x56, 0x9f, 0x5f, 0xa9, 0xbb,
    0x13, 0xd9, 0x06, 0xb4, 0x6a, 0xb6, 0x8c, 0x9d, 0xf9, 0xdc, 0x2b, 0x44, 0x09, 0xf8, 0xa2, 0x09],
    rfl⟩

/-- The other's. -/
def bobSecret : Octets 32 := List.Vector.replicate 32 0x02

def bobPublic : Octets 32 :=
  ⟨[0xce, 0x8d, 0x3a, 0xd1, 0xcc, 0xb6, 0x33, 0xec, 0x7b, 0x70, 0xc1, 0x78, 0x14, 0xa5, 0xc7, 0x6e,
    0xcd, 0x02, 0x96, 0x85, 0x05, 0x0d, 0x34, 0x47, 0x45, 0xba, 0x05, 0x87, 0x0e, 0x58, 0x7d, 0x59],
    rfl⟩

/-- The secret they share. -/
def peersShared : Octets 32 :=
  ⟨[0x2e, 0xd7, 0x6a, 0xb5, 0x49, 0xb1, 0xe7, 0x3c, 0x03, 0x1e, 0xb4, 0x9c, 0x94, 0x48, 0xf0, 0x79,
    0x8a, 0xea, 0x81, 0xb6, 0x98, 0x27, 0x9a, 0x0c, 0x3d, 0xc3, 0xe4, 0x9f, 0xbf, 0xc4, 0xb9, 0x53],
    rfl⟩

/-- The 76 bytes that HKDF-SHA256 expands it to. -/
def peersOkm : List UInt8 :=
  [0x36, 0x1f, 0x41, 0x21, 0xd8, 0x03, 0x7f, 0xa0, 0x58, 0x5a, 0xb0, 0x4e, 0xa8, 0x61, 0xe2, 0x45,
    0xf8, 0x65, 0xf9, 0x13, 0xf3, 0xc5, 0x8a, 0x24, 0xb4, 0x15, 0xed, 0x2b, 0x7c, 0xdd, 0x8d, 0x03,
    0xeb, 0xed, 0xc8, 0xbd, 0x27, 0xf3, 0xcb, 0x0f, 0x55, 0xe7, 0x76, 0xec, 0x25, 0xdb, 0x62, 0xc3,
    0x58, 0xa4, 0x32, 0x3f, 0x6f, 0x66, 0xab, 0x64, 0x96, 0x3d, 0x8b, 0xc4, 0xb0, 0x8f, 0x23, 0x2c,
    0x7f, 0xe0, 0xe5, 0x34, 0x95, 0x03, 0xd6, 0x40, 0x1a, 0xbd, 0xae, 0xdb]

/-- The greeting of the cipher's own tests. -/
def greeting : List UInt8 := "Hello, NHP Protocol!".toUTF8.toList

/-- The greeting, under the first half of the derivation and its nonce. -/
def greetingCiphertext : List UInt8 :=
  [0x79, 0xa8, 0xeb, 0x85, 0x48, 0x35, 0x1d, 0x12, 0x1a, 0xe2, 0x88, 0x20, 0x2f, 0xaf, 0x07, 0x7c,
    0x7a, 0x95, 0x14, 0x16]

theorem length_greeting : greeting.length = greetingCiphertext.length := by
  decide +kernel

def greetingTag : Octets 16 :=
  ⟨[0x50, 0xc7, 0xce, 0x53, 0xd9, 0x83, 0x51, 0x6f, 0x83, 0xee, 0x05, 0x94, 0x1c, 0xd7, 0x08, 0xa6],
    rfl⟩

/-- X25519 on the two secrets. -/
def peersX25519 : KeyExchange (Octets 32) 32 where
  publicKey secret :=
    if secret = aliceSecret then alicePublic
    else if secret = bobSecret then bobPublic
    else secret
  diffieHellman _ _ := peersShared

/-- HKDF-SHA256 on the secret they share. -/
def peersHkdf : Hkdf where
  expand _ _ _ n :=
    if n ≤ 255 * 32 then .ok ⟨(peersOkm ++ List.replicate n 0).take n, by simp⟩
    else .error "invalid number of blocks, too large output"

/-- The keys that come of it. -/
def peersKeys : SessionKeyMaterial where
  encryptionKey := ⟨peersOkm.take 32, rfl⟩
  decryptionKey := ⟨(peersOkm.drop 32).take 32, rfl⟩
  sessionNonce := ⟨peersOkm.drop 64, rfl⟩

/-- ChaCha20-Poly1305 on the greeting, and a cipher that refuses everything
else. -/
def peersAead : Aead (Octets 32) (Octets 12) 16 where
  encryptInPlaceDetached key nonce aad := ExceptT.mk fun plaintext =>
    if key = peersKeys.encryptionKey ∧ nonce = peersKeys.sessionNonce ∧ aad = [] ∧
      plaintext = greeting then (.ok greetingTag, greetingCiphertext)
    else (.error (), plaintext)
  decryptInPlaceDetached key nonce aad tag := ExceptT.mk fun ciphertext =>
    if key = peersKeys.encryptionKey ∧ nonce = peersKeys.sessionNonce ∧ aad = [] ∧
      tag = greetingTag ∧ ciphertext = greetingCiphertext then (.ok (), greeting)
    else (.error (), ciphertext)
  length_decrypt key nonce aad tag buffer := by
    simp only [Fallible.call, ExceptT.run_mk, StateT.run]
    split
    · next h =>
      rw [h.2.2.2.2]
      exact length_greeting
    · rfl

theorem peersX25519_symmetric : peersX25519.Symmetric := fun _ _ => rfl

theorem peersHkdf_expands : peersHkdf.Expands 32 := fun _ _ _ _ h => ⟨_, if_pos h⟩

/-- Every secret derives the two peers' keys here. -/
theorem deriveSessionKeys_peers (sharedSecret : List UInt8) :
    deriveSessionKeys peersHkdf sharedSecret = .ok peersKeys := rfl

theorem peersKeys_differ : peersKeys.encryptionKey ≠ peersKeys.decryptionKey := by
  decide +kernel

theorem peersHkdf_halvesDiffer : HalvesDiffer peersHkdf := by
  intro sharedSecret keys h
  rw [deriveSessionKeys_peers] at h
  obtain rfl := Except.ok.inj h
  exact peersKeys_differ

theorem sealed_greeting :
    peersAead.sealed peersKeys.encryptionKey peersKeys.sessionNonce [] greeting
      = some (greetingCiphertext, greetingTag) := by
  simp only [Aead.sealed, peersAead, Fallible.call, ExceptT.run_mk, StateT.run, and_self, if_true]

theorem sealed_peers {key : Octets 32} {nonce : Octets 12} {aad plaintext ciphertext : List UInt8}
    {tag : Octets 16} (h : peersAead.sealed key nonce aad plaintext = some (ciphertext, tag)) :
    key = peersKeys.encryptionKey := by
  by_contra hkey
  have hnot : ¬(key = peersKeys.encryptionKey ∧ nonce = peersKeys.sessionNonce ∧ aad = [] ∧
      plaintext = greeting) := fun hall => hkey hall.1
  simp only [Aead.sealed, peersAead, Fallible.call, ExceptT.run_mk, StateT.run, if_neg hnot] at h
  cases h

theorem opened_peers_other {key : Octets 32} (nonce : Octets 12) (aad ciphertext : List UInt8)
    (tag : Octets 16) (hkey : key ≠ peersKeys.encryptionKey) :
    peersAead.opened key nonce aad ciphertext tag = none := by
  have hnot : ¬(key = peersKeys.encryptionKey ∧ nonce = peersKeys.sessionNonce ∧ aad = [] ∧
      tag = greetingTag ∧ ciphertext = greetingCiphertext) := fun hall => hkey hall.1
  simp only [Aead.opened, peersAead, Fallible.call, ExceptT.run_mk, StateT.run, if_neg hnot]

theorem peersAead_keyBound : peersAead.KeyBound := by
  intro key other nonce aad plaintext ciphertext tag hne hsealed
  obtain rfl := sealed_peers hsealed
  exact opened_peers_other nonce aad ciphertext tag hne

/-- One peer's key pair. -/
def alice : NhpX25519KeyPair peersX25519 where
  secret := aliceSecret
  publicKeyBytes := alicePublic
  paired := rfl

theorem bob_paired : bobPublic = peersX25519.publicKey bobSecret := by
  decide +kernel

/-- The other's. -/
def bob : NhpX25519KeyPair peersX25519 where
  secret := bobSecret
  publicKeyBytes := bobPublic
  paired := bob_paired

/-- These two cannot talk. -/
theorem oneWay_peers :
    ¬WorkBothWays peersHkdf peersAead alice bob ∧
    ∃ keys, sessionKeys peersHkdf alice bob.publicKeyBytes = .ok keys ∧
      sessionKeys peersHkdf bob alice.publicKeyBytes = .ok keys ∧
      ∀ nonce plaintext ciphertext,
        encrypt peersAead keys.encryptionKey nonce plaintext = .ok ciphertext →
          decrypt peersAead keys.decryptionKey nonce ciphertext
            = .error "Decryption/authentication failed: aead::Error" :=
  oneWay peersX25519_symmetric peersHkdf_expands peersHkdf_halvesDiffer peersAead_keyBound alice bob

/-- One of them seals the greeting, the other fails to open it, and the
keys do not work both ways. -/
theorem greeting_unreadable :
    sessionKeys peersHkdf alice bob.publicKeyBytes = .ok peersKeys ∧
    sessionKeys peersHkdf bob alice.publicKeyBytes = .ok peersKeys ∧
    encrypt peersAead peersKeys.encryptionKey peersKeys.sessionNonce greeting
      = .ok (greetingCiphertext ++ greetingTag.toList) ∧
    decrypt peersAead peersKeys.decryptionKey peersKeys.sessionNonce
      (greetingCiphertext ++ greetingTag.toList)
      = .error "Decryption/authentication failed: aead::Error" ∧
    ¬WorkBothWays peersHkdf peersAead alice bob := by
  have hseal : encrypt peersAead peersKeys.encryptionKey peersKeys.sessionNonce greeting
      = .ok (greetingCiphertext ++ greetingTag.toList) := by
    rw [encrypt, sealed_greeting]
  have hopen : decrypt peersAead peersKeys.decryptionKey peersKeys.sessionNonce
      (greetingCiphertext ++ greetingTag.toList)
      = .error "Decryption/authentication failed: aead::Error" :=
    decrypt_of_other_key peersAead_keyBound peersKeys_differ.symm hseal
  have hkeysA : sessionKeys peersHkdf alice bob.publicKeyBytes = .ok peersKeys := rfl
  have hkeysB : sessionKeys peersHkdf bob alice.publicKeyBytes = .ok peersKeys := rfl
  refine ⟨hkeysA, hkeysB, hseal, hopen, ?_⟩
  rintro ⟨keysA, keysB, hA, hB, hAB, -, -⟩
  rw [hkeysA] at hA
  rw [hkeysB] at hB
  obtain rfl := Except.ok.inj hA
  obtain rfl := Except.ok.inj hB
  have hread := hAB _ _ _ hseal
  rw [hopen] at hread
  cases hread

end Session

end NhpSba
