import NhpSba.Common.Crypto
/-!
# Session keys, from the handshake to the cipher

Two peers agree on a secret by X25519, each derives its session keys from
it by HKDF-SHA256, and each seals with its encryption key and opens with
its decryption key. The three packages are parameters.
-/

namespace NhpSba

namespace Session

variable {Secret : Type}

/-- X25519 static key pair for the handshake; its fields are private, and
`generate` is the only way to build one. -/
structure NhpX25519KeyPair (X : KeyExchange Secret 32) where
  secret : Secret
  publicKeyBytes : Octets 32
  paired : publicKeyBytes = X.publicKey secret

/-- `perform_x25519_handshake`. Every 32 bytes are a public key, so this
never fails. -/
def performX25519Handshake {X : KeyExchange Secret 32} (ourKeypair : NhpX25519KeyPair X)
    (theirPublicBytes : Octets 32) : Except String (Octets 32) :=
  .ok (X.diffieHellman ourKeypair.secret theirPublicBytes)

/-- Session key material derived from the X25519 shared secret. -/
structure SessionKeyMaterial where
  encryptionKey : Octets 32
  /-- "For bidirectional", says the source. -/
  decryptionKey : Octets 32
  sessionNonce : Octets 12
  deriving DecidableEq

/-- The salt of the derivation. -/
def salt : List UInt8 := "nhp_sba-nhp-session".toUTF8.toList

/-- The label of the derivation. -/
def info : List UInt8 := "nhp-session-keys-v1".toUTF8.toList

/-- `derive_session_keys`. -/
def deriveSessionKeys (H : Hkdf) (sharedSecret : List UInt8) : Except String SessionKeyMaterial :=
  match H.expand salt sharedSecret info 76 with
  | .error e => .error ("HKDF expand failed: " ++ e)
  | .ok output =>
    .ok { encryptionKey := output.range 0 32 (by omega)
          decryptionKey := output.range 32 32 (by omega)
          sessionNonce := output.range 64 12 (by omega) }

/-- `encrypt`: the ciphertext, and the tag after it. A key of 32 bytes
always makes a cipher. -/
def encrypt (A : Aead (Octets 32) (Octets 12) 16) (key : Octets 32) (nonce : Octets 12)
    (plaintext : List UInt8) : Except String (List UInt8) :=
  match A.sealed key nonce [] plaintext with
  | some (ciphertext, tag) => .ok (ciphertext ++ tag.toList)
  | none => .error "Encryption failed: aead::Error"

/-- `decrypt`. -/
def decrypt (A : Aead (Octets 32) (Octets 12) 16) (key : Octets 32) (nonce : Octets 12)
    (ciphertext : List UInt8) : Except String (List UInt8) :=
  match splitTag 16 ciphertext with
  | none => .error "Decryption/authentication failed: aead::Error"
  | some (front, tag) =>
    match A.opened key nonce [] front tag with
    | some plaintext => .ok plaintext
    | none => .error "Decryption/authentication failed: aead::Error"

/-- What a peer does to get its keys: the handshake with the other's public
key, and the derivation from what comes of it. -/
def sessionKeys (H : Hkdf) {X : KeyExchange Secret 32} (ours : NhpX25519KeyPair X)
    (theirPublicBytes : Octets 32) : Except String SessionKeyMaterial := do
  let shared ← performX25519Handshake ours theirPublicBytes
  deriveSessionKeys H shared.toList

end Session

end NhpSba
