import NhpSba.Common.Crypto
/-!
# Ingress — the crypto pipeline

`process_ingress_packet`: decrypt in place, verify, parse. The buffer is the
state of the computation, so what one stage leaves in it is what the next
one reads. The cipher, the signatures and the generated schema module are
parameters; the module that `build.rs` generates is `builtSchema`.
-/

namespace NhpSba

namespace Ingress

inductive PipelineError
  | decryptionFailed
  | signatureVerificationFailed
  | parsingFailed
  | bufferTooSmall
  deriving DecidableEq

/-- The error's text. -/
def PipelineError.message : PipelineError → String
  | .decryptionFailed => "AEAD Decryption failed. Packet dropped."
  | .signatureVerificationFailed =>
    "Ed25519 Signature verification failed. Integrity compromised."
  | .parsingFailed => "FlatBuffers parsing failed or invalid schema structure."
  | .bufferTooSmall => "Buffer too small to contain required headers/signatures."

/-- The generated schema module, as far as the pipeline reads it. -/
structure Schema (KnkPayload : Type) where
  rootAsKnkPayload : List UInt8 → Option KnkPayload
  agentUri : KnkPayload → Option String
  targetService : KnkPayload → Option String

/-- The module `build.rs` writes. A payload is the bytes it was read from. -/
def builtSchema : Schema (List UInt8) where
  rootAsKnkPayload buf := if buf.length < 10 then none else some buf
  agentUri _ := some "urn:nhp_sba:agent:alpha"
  targetService _ := some "srv-1"

section Pipeline

variable {SigningKey VerifyingKey KnkPayload : Type}
variable (aead : Aead (Octets 32) (Octets 12) 16)
variable (ed25519 : SignatureScheme SigningKey VerifyingKey (Octets 64))
variable (schema : Schema KnkPayload)

open Fallible in
/-- `process_ingress_packet`. -/
def processIngressPacket (cipherKey : Octets 32) (cipherNonce : Octets 12)
    (agentPubkey : VerifyingKey) (signature : Octets 64) :
    Fallible PipelineError (List UInt8) KnkPayload := do
  let buffer ← read
  if h : buffer.length < 16 then raise .bufferTooSmall
  else
    let mid := buffer.length - 16
    let tag : Octets 16 := ⟨buffer.drop mid, by simp only [List.length_drop, mid]; omega⟩
    onFront mid (mapError (fun _ => .decryptionFailed)
      (aead.decryptInPlaceDetached cipherKey cipherNonce [] tag))
    -- the area now holds the plaintext; the tag still follows it
    let decrypted ← read
    let ciphertextArea := decrypted.take mid
    if ed25519.verify agentPubkey ciphertextArea signature then
      match schema.rootAsKnkPayload ciphertextArea with
      | none => raise .parsingFailed
      | some payload =>
        if (schema.agentUri payload).isNone || (schema.targetService payload).isNone then
          raise .parsingFailed
        else pure payload
    else raise .signatureVerificationFailed

/-- `generate_valid_packet`, for any keys and plaintext: sign it, seal it and
append the tag. -/
def generateValidPacket (signingKey : SigningKey) (cipherKey : Octets 32)
    (cipherNonce : Octets 12) (plaintext : List UInt8) : Option (List UInt8 × Octets 64) :=
  (aead.sealed cipherKey cipherNonce [] plaintext).map fun sealed =>
    (sealed.1 ++ sealed.2.toList, ed25519.sign signingKey plaintext)

end Pipeline

end Ingress

end NhpSba
