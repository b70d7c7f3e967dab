import NhpSba.Common.Fallible
import Mathlib.Data.Vector.Defs
/-!
# Ciphers and signatures, as their packages present them

An AEAD cipher with a detached tag works in place: it rewrites the bytes it
is lent, whose number it cannot change, and hands the tag over apart. Both
it and a signature scheme are records of operations, with their one law
apart, so that what holds of a caller without the law is seen to.
-/

namespace NhpSba

/-- An array of `n` bytes. -/
abbrev Octets (n : ℕ) := List.Vector UInt8 n

/-- The `len` bytes of an array from a place on. -/
def Octets.range {n : ℕ} (xs : Octets n) (lo len : ℕ) (h : lo + len ≤ n) : Octets len :=
  ⟨(xs.toList.drop lo).take len, by
    rw [List.length_take, List.length_drop, List.Vector.toList_length]
    omega⟩

/-- A cipher that seals and opens the bytes it is lent. -/
structure Aead (Key Nonce : Type) (tagSize : ℕ) where
  /-- `encrypt_in_place_detached(nonce, aad, buffer)`. -/
  encryptInPlaceDetached : Key → Nonce → List UInt8 → Fallible Unit (List UInt8) (Octets tagSize)
  /-- `decrypt_in_place_detached(nonce, aad, buffer, tag)`. -/
  decryptInPlaceDetached : Key → Nonce → List UInt8 → Octets tagSize →
    Fallible Unit (List UInt8) Unit
  /-- A slice keeps its length. -/
  length_decrypt : ∀ key nonce aad tag buffer,
    (Fallible.call (decryptInPlaceDetached key nonce aad tag) buffer).2.length = buffer.length

namespace Aead

variable {Key Nonce : Type} {tagSize : ℕ} (A : Aead Key Nonce tagSize)

/-- Opening, as a partial function: what decryption leaves when it
succeeds. -/
def opened (key : Key) (nonce : Nonce) (aad ciphertext : List UInt8) (tag : Octets tagSize) :
    Option (List UInt8) :=
  match Fallible.call (A.decryptInPlaceDetached key nonce aad tag) ciphertext with
  | (.ok _, plaintext) => some plaintext
  | (.error _, _) => none

/-- Sealing, as a partial function: the ciphertext and its tag. -/
def sealed (key : Key) (nonce : Nonce) (aad plaintext : List UInt8) :
    Option (List UInt8 × Octets tagSize) :=
  match Fallible.call (A.encryptInPlaceDetached key nonce aad) plaintext with
  | (.ok tag, ciphertext) => some (ciphertext, tag)
  | (.error _, _) => none

/-- **The law of the cipher.** What is sealed opens to what it was. -/
def Lawful : Prop :=
  ∀ key nonce aad plaintext ciphertext tag,
    A.sealed key nonce aad plaintext = some (ciphertext, tag) →
      A.opened key nonce aad ciphertext tag = some plaintext

variable {A} {key : Key} {nonce : Nonce} {aad ciphertext plaintext : List UInt8}
  {tag : Octets tagSize}

theorem call_decrypt_of_opened (h : A.opened key nonce aad ciphertext tag = some plaintext) :
    Fallible.call (A.decryptInPlaceDetached key nonce aad tag) ciphertext
      = (.ok (), plaintext) := by
  unfold opened at h
  split at h
  · next heq =>
    rw [heq]
    exact congrArg _ (Option.some.inj h)
  · cases h

theorem call_decrypt_of_not_opened (h : A.opened key nonce aad ciphertext tag = none) :
    ∃ left, Fallible.call (A.decryptInPlaceDetached key nonce aad tag) ciphertext
      = (.error (), left) := by
  unfold opened at h
  split at h
  · cases h
  · next left heq => exact ⟨left, heq⟩

end Aead

/-- **What a key seals, no other key opens.** -/
def Aead.KeyBound {Key Nonce : Type} {tagSize : ℕ} (A : Aead Key Nonce tagSize) : Prop :=
  ∀ key other nonce aad plaintext ciphertext tag, other ≠ key →
    A.sealed key nonce aad plaintext = some (ciphertext, tag) →
      A.opened other nonce aad ciphertext tag = none

/-- A Diffie-Hellman key exchange. -/
structure KeyExchange (Secret : Type) (n : ℕ) where
  /-- `PublicKey::from(&secret)`. -/
  publicKey : Secret → Octets n
  /-- `secret.diffie_hellman(&public)`. -/
  diffieHellman : Secret → Octets n → Octets n

/-- **The law of the exchange.** Both parties reach the same secret. -/
def KeyExchange.Symmetric {Secret : Type} {n : ℕ} (X : KeyExchange Secret n) : Prop :=
  ∀ a b, X.diffieHellman a (X.publicKey b) = X.diffieHellman b (X.publicKey a)

/-- An extract-and-expand key derivation. -/
structure Hkdf where
  /-- `Hkdf::new(salt, ikm).expand(info, okm)`, for an `okm` of `n` bytes. -/
  expand : (salt ikm info : List UInt8) → (n : ℕ) → Except String (Octets n)

/-- **The law of the derivation**, for a hash of `hashSize` bytes: it
expands to anything up to 255 blocks. -/
def Hkdf.Expands (H : Hkdf) (hashSize : ℕ) : Prop :=
  ∀ salt ikm info n, n ≤ 255 * hashSize → ∃ okm, H.expand salt ikm info n = .ok okm

/-- A signature scheme. -/
structure SignatureScheme (SigningKey VerifyingKey Signature : Type) where
  /-- `signing_key.verifying_key()`. -/
  verifyingKey : SigningKey → VerifyingKey
  /-- `signing_key.sign(message)`. -/
  sign : SigningKey → List UInt8 → Signature
  /-- `verifying_key.verify(message, signature)`. -/
  verify : VerifyingKey → List UInt8 → Signature → Bool

/-- **The law of the scheme.** What a key signs, its public key verifies. -/
def SignatureScheme.Lawful {SigningKey VerifyingKey Signature : Type}
    (S : SignatureScheme SigningKey VerifyingKey Signature) : Prop :=
  ∀ key message, S.verify (S.verifyingKey key) message (S.sign key message) = true

/-! ## A tag at the end of a buffer -/

section Tag

variable {n : ℕ}

/-- A buffer, cut before its last `n` bytes. -/
def splitTag (n : ℕ) (buffer : List UInt8) : Option (List UInt8 × Octets n) :=
  if h : n ≤ buffer.length then
    some (buffer.take (buffer.length - n), ⟨buffer.drop (buffer.length - n), by simp; omega⟩)
  else none

/-- The cut undoes appending a tag, and nothing else. -/
theorem splitTag_eq_some {buffer front : List UInt8} {tag : Octets n} :
    splitTag n buffer = some (front, tag) ↔ buffer = front ++ tag.toList := by
  unfold splitTag
  constructor
  · intro h
    split at h
    · obtain ⟨rfl, rfl⟩ := Prod.mk.inj (Option.some.inj h)
      exact (List.take_append_drop _ buffer).symm
    · cases h
  · rintro rfl
    have hlen : (front ++ tag.toList).length - n = front.length := by simp
    rw [dif_pos (by simp)]
    refine congrArg some (Prod.ext ?_ (Subtype.ext ?_))
    · show List.take _ _ = front
      rw [hlen, List.take_left]
    · show List.drop _ _ = tag.toList
      rw [hlen, List.drop_left]

theorem splitTag_eq_none {buffer : List UInt8} : splitTag n buffer = none ↔ buffer.length < n := by
  simp [splitTag]

end Tag

end NhpSba
