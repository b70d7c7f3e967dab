import NhpSba.Ingress.Model.Pipeline
/-!
# Ingress — what the pipeline accepts

On values, without a buffer, the pipeline is four partial functions in
sequence, each with an error of its own: cut off the tag, open, verify,
parse. `call_processIngressPacket` shows the code, which runs them on one
buffer mutated in place, to have that outcome; which packets are accepted,
and which error a refused one gets, are read off it.
-/

namespace NhpSba

namespace Ingress

/-- The payload some bytes hold, with both required fields. -/
def Schema.parsed {KnkPayload : Type} (schema : Schema KnkPayload) (m : List UInt8) :
    Option KnkPayload :=
  (schema.rootAsKnkPayload m).filter fun p =>
    (schema.agentUri p).isSome && (schema.targetService p).isSome

/-- Bytes that hold a payload with both required fields. -/
structure Schema.WellFormed {KnkPayload : Type} (schema : Schema KnkPayload) (m : List UInt8)
    (p : KnkPayload) : Prop where
  root : schema.rootAsKnkPayload m = some p
  agentUri : (schema.agentUri p).isSome = true
  targetService : (schema.targetService p).isSome = true

theorem Schema.parsed_eq_some {KnkPayload : Type} {schema : Schema KnkPayload} {m : List UInt8}
    {p : KnkPayload} : schema.parsed m = some p ↔ schema.WellFormed m p := by
  unfold Schema.parsed
  rw [Option.filter_eq_some_iff, Bool.and_eq_true]
  exact ⟨fun h => ⟨h.1, h.2.1, h.2.2⟩, fun h => ⟨h.1, h.2, h.3⟩⟩

theorem Schema.parsed_eq_none {KnkPayload : Type} {schema : Schema KnkPayload} {m : List UInt8} :
    schema.parsed m = none ↔ ∀ p, ¬ schema.WellFormed m p := by
  rw [Option.eq_none_iff_forall_ne_some]
  exact forall_congr' fun p => not_congr Schema.parsed_eq_some

section Pipeline

variable {SigningKey VerifyingKey KnkPayload : Type}
variable (aead : Aead (Octets 32) (Octets 12) 16)
variable (ed25519 : SignatureScheme SigningKey VerifyingKey (Octets 64))
variable (schema : Schema KnkPayload)
variable (cipherKey : Octets 32) (cipherNonce : Octets 12)
variable (agentPubkey : VerifyingKey) (signature : Octets 64)

/-- What verification and parsing make of a plaintext. -/
def admitted (m : List UInt8) : Except PipelineError KnkPayload :=
  if ed25519.verify agentPubkey m signature then orFail .parsingFailed (schema.parsed m)
  else .error .signatureVerificationFailed

/-- **The pipeline on values.** -/
def outcome (buffer : List UInt8) : Except PipelineError KnkPayload := do
  let cut ← orFail .bufferTooSmall (splitTag 16 buffer)
  let m ← orFail .decryptionFailed (aead.opened cipherKey cipherNonce [] cut.1 cut.2)
  admitted ed25519 schema agentPubkey signature m

/-- A buffer that opens to a plaintext, its last 16 bytes as the tag. -/
def Decrypts (buffer m : List UInt8) : Prop :=
  ∃ (front : List UInt8) (tag : Octets 16), buffer = front ++ tag.toList ∧
    aead.opened cipherKey cipherNonce [] front tag = some m

variable {aead ed25519 schema cipherKey cipherNonce agentPubkey signature}
variable {buffer m : List UInt8} {p : KnkPayload}

/-! ## The code has the outcome of the stages -/

open Fallible

variable (aead cipherKey cipherNonce) in
/-- Cutting off the tag and lending the cipher the rest. -/
theorem call_onFront_decrypt (front : List UInt8) (tag : Octets 16) :
    call (onFront front.length (mapError (fun _ => PipelineError.decryptionFailed)
      (aead.decryptInPlaceDetached cipherKey cipherNonce [] tag))) (front ++ tag.toList)
      = ((call (aead.decryptInPlaceDetached cipherKey cipherNonce [] tag) front).1.mapError
          (fun _ => PipelineError.decryptionFailed),
        (call (aead.decryptInPlaceDetached cipherKey cipherNonce [] tag) front).2
          ++ tag.toList) := by
  rw [call_onFront, List.take_left, List.drop_left, call_mapError]

theorem call_short (h : buffer.length < 16) :
    call (processIngressPacket aead ed25519 schema cipherKey cipherNonce agentPubkey signature)
      buffer = (.error .bufferTooSmall, buffer) := by
  unfold processIngressPacket
  rw [call_read_bind, dif_pos h, call_raise]

/-- The part of the code after decryption, on the plaintext it left. -/
theorem call_admitted (m s : List UInt8) :
    call (if ed25519.verify agentPubkey m signature = true then
        match schema.rootAsKnkPayload m with
        | none => raise .parsingFailed
        | some payload =>
          if ((schema.agentUri payload).isNone || (schema.targetService payload).isNone) = true then
            raise .parsingFailed
          else pure payload
      else raise .signatureVerificationFailed) s
      = (admitted ed25519 schema agentPubkey signature m, s) := by
  unfold admitted Schema.parsed
  by_cases hverify : ed25519.verify agentPubkey m signature = true
  · rw [if_pos hverify, if_pos hverify]
    cases hroot : schema.rootAsKnkPayload m with
    | none => rfl
    | some p =>
      rw [Option.filter_some]
      -- a view that lacks a text fails as one that does not parse
      cases hagent : schema.agentUri p <;> cases htarget : schema.targetService p <;>
        simp [hagent, htarget, orFail]
  · rw [if_neg hverify, if_neg hverify]
    rfl

/-- **One buffer, cut at the tag.** The cipher rewrites what precedes the
tag; verification and parsing read what it left there. -/
theorem call_append (front : List UInt8) (tag : Octets 16) :
    call (processIngressPacket aead ed25519 schema cipherKey cipherNonce agentPubkey signature)
      (front ++ tag.toList)
      = match call (aead.decryptInPlaceDetached cipherKey cipherNonce [] tag) front with
        | (.ok _, m) => (admitted ed25519 schema agentPubkey signature m, m ++ tag.toList)
        | (.error _, left) => (.error .decryptionFailed, left ++ tag.toList) := by
  have hmid : (front ++ tag.toList).length - 16 = front.length := by simp
  have htag : (⟨(front ++ tag.toList).drop front.length, by simp⟩ : Octets 16) = tag :=
    Subtype.ext List.drop_left
  have hlen := aead.length_decrypt cipherKey cipherNonce [] tag front
  have hfront := call_onFront_decrypt aead cipherKey cipherNonce front tag
  unfold processIngressPacket
  rw [call_read_bind, dif_neg (by simp)]
  simp only [hmid, htag]
  rcases hdecrypt : call (aead.decryptInPlaceDetached cipherKey cipherNonce [] tag) front with
    ⟨_ | _, m⟩
  · rw [hdecrypt] at hfront
    rw [call_bind_error hfront]
  · -- the area keeps its length, so the second cut falls where the first did
    rw [hdecrypt] at hfront hlen
    rw [call_bind_ok hfront, call_read_bind, ← hlen, List.take_left]
    exact call_admitted m _

/-- **Refinement.** On the one buffer, the code has the outcome of the
stages on values. -/
theorem call_processIngressPacket (buffer : List UInt8) :
    (call (processIngressPacket aead ed25519 schema cipherKey cipherNonce agentPubkey signature)
      buffer).1
      = outcome aead ed25519 schema cipherKey cipherNonce agentPubkey signature buffer := by
  unfold outcome
  cases hcut : splitTag 16 buffer with
  | none => rw [call_short (splitTag_eq_none.1 hcut)]; rfl
  | some cut =>
    obtain ⟨front, tag⟩ := cut
    rw [splitTag_eq_some.1 hcut, call_append]
    change _ = Except.bind (orFail _ (aead.opened cipherKey cipherNonce [] front tag)) _
    cases hopen : aead.opened cipherKey cipherNonce [] front tag with
    | none =>
      -- whatever is left in the buffer, no later step reads it
      obtain ⟨left, hdecrypt⟩ := Aead.call_decrypt_of_not_opened hopen
      rw [hdecrypt]
      rfl
    | some m =>
      rw [Aead.call_decrypt_of_opened hopen]
      rfl

/-! ## Which packets are accepted, and what the others are refused with -/

theorem admitted_eq_ok :
    admitted ed25519 schema agentPubkey signature m = .ok p ↔
      ed25519.verify agentPubkey m signature = true ∧ schema.WellFormed m p := by
  unfold admitted
  cases ed25519.verify agentPubkey m signature with
  | false => simp
  | true => simp [Schema.parsed_eq_some]

theorem admitted_eq_error {e : PipelineError} :
    admitted ed25519 schema agentPubkey signature m = .error e ↔
      (ed25519.verify agentPubkey m signature = false ∧ .signatureVerificationFailed = e) ∨
      (ed25519.verify agentPubkey m signature = true ∧ (∀ p, ¬ schema.WellFormed m p) ∧
        .parsingFailed = e) := by
  unfold admitted
  cases ed25519.verify agentPubkey m signature with
  | false => simp
  | true => simp [Schema.parsed_eq_none]

theorem Decrypts.length_le (h : Decrypts aead cipherKey cipherNonce buffer m) :
    16 ≤ buffer.length := by
  obtain ⟨front, tag, rfl, -⟩ := h
  simp

/-- The tag a buffer is cut at is its own last 16 bytes. -/
theorem decrypts_append {front : List UInt8} {tag : Octets 16} :
    Decrypts aead cipherKey cipherNonce (front ++ tag.toList) m ↔
      aead.opened cipherKey cipherNonce [] front tag = some m := by
  constructor
  · rintro ⟨front', tag', hcut, hopen⟩
    have hsplit := splitTag_eq_some.2 hcut
    rw [splitTag_eq_some.2 rfl] at hsplit
    obtain ⟨rfl, rfl⟩ := Prod.mk.inj (Option.some.inj hsplit)
    exact hopen
  · intro hopen
    exact ⟨front, tag, rfl, hopen⟩

/-- A buffer long enough for a tag that does not open. -/
theorem not_decrypts_iff :
    (∃ (front : List UInt8) (tag : Octets 16), buffer = front ++ tag.toList ∧
      aead.opened cipherKey cipherNonce [] front tag = none) ↔
      16 ≤ buffer.length ∧ ∀ m, ¬ Decrypts aead cipherKey cipherNonce buffer m := by
  constructor
  · rintro ⟨front, tag, rfl, hopen⟩
    refine ⟨by simp, fun m h => ?_⟩
    rw [decrypts_append, hopen] at h
    cases h
  · rintro ⟨hlen, hnone⟩
    cases hcut : splitTag 16 buffer with
    | none => exact absurd (splitTag_eq_none.1 hcut) (by omega)
    | some cut =>
      obtain ⟨front, tag⟩ := cut
      obtain rfl := splitTag_eq_some.1 hcut
      exact ⟨front, tag, rfl, Option.eq_none_iff_forall_ne_some.2 fun m hopen =>
        hnone m (decrypts_append.2 hopen)⟩

/-- What a buffer comes to, when it is long enough and opens. -/
theorem outcome_eq_ok :
    outcome aead ed25519 schema cipherKey cipherNonce agentPubkey signature buffer = .ok p ↔
      ∃ m, Decrypts aead cipherKey cipherNonce buffer m ∧
        ed25519.verify agentPubkey m signature = true ∧ schema.WellFormed m p := by
  unfold outcome Decrypts
  simp only [bind_eq_ok, orFail_eq_ok, splitTag_eq_some, admitted_eq_ok, Prod.exists]
  constructor
  · rintro ⟨front, tag, hcut, m, hopen, hadmit⟩
    exact ⟨m, ⟨front, tag, hcut, hopen⟩, hadmit⟩
  · rintro ⟨m, ⟨front, tag, hcut, hopen⟩, hadmit⟩
    exact ⟨front, tag, hcut, m, hopen, hadmit⟩

/-- **The first stage that fails names the error.** -/
theorem outcome_eq_error {e : PipelineError} :
    outcome aead ed25519 schema cipherKey cipherNonce agentPubkey signature buffer = .error e ↔
      (buffer.length < 16 ∧ .bufferTooSmall = e) ∨
      ((16 ≤ buffer.length ∧ ∀ m, ¬ Decrypts aead cipherKey cipherNonce buffer m) ∧
        .decryptionFailed = e) ∨
      (∃ m, Decrypts aead cipherKey cipherNonce buffer m ∧
        admitted ed25519 schema agentPubkey signature m = .error e) := by
  rw [← not_decrypts_iff]
  unfold outcome Decrypts
  simp only [bind_eq_error, orFail_eq_ok, orFail_eq_error, splitTag_eq_some, splitTag_eq_none,
    Prod.exists]
  constructor
  · rintro (h | ⟨front, tag, hcut, ⟨hopen, he⟩ | ⟨m, hopen, hadmit⟩⟩)
    · exact .inl h
    · exact .inr (.inl ⟨⟨front, tag, hcut, hopen⟩, he⟩)
    · exact .inr (.inr ⟨m, ⟨front, tag, hcut, hopen⟩, hadmit⟩)
  · rintro (h | ⟨⟨front, tag, hcut, hopen⟩, he⟩ | ⟨m, ⟨front, tag, hcut, hopen⟩, hadmit⟩)
    · exact .inl h
    · exact .inr ⟨front, tag, hcut, .inl ⟨hopen, he⟩⟩
    · exact .inr ⟨front, tag, hcut, .inr ⟨m, hopen, hadmit⟩⟩

/-- What a sender that signs, seals and appends the tag makes opens to what
it signed. -/
theorem decrypts_of_generated (hcipher : aead.Lawful) {signingKey : SigningKey}
    {packet : List UInt8} {signature : Octets 64}
    (h : generateValidPacket aead ed25519 signingKey cipherKey cipherNonce m
      = some (packet, signature)) :
    Decrypts aead cipherKey cipherNonce packet m ∧ signature = ed25519.sign signingKey m := by
  unfold generateValidPacket at h
  obtain ⟨⟨ciphertext, tag⟩, hsealed, heq⟩ := Option.map_eq_some_iff.1 h
  obtain ⟨rfl, rfl⟩ := Prod.mk.inj heq
  exact ⟨⟨ciphertext, tag, rfl, hcipher _ _ _ _ _ _ hsealed⟩, rfl⟩

variable (aead ed25519 schema cipherKey cipherNonce) in
/-- What `process_ingress_packet` returns on a buffer. -/
def received (agentPubkey : VerifyingKey) (signature : Octets 64) (buffer : List UInt8) :
    Except PipelineError KnkPayload :=
  (call (processIngressPacket aead ed25519 schema cipherKey cipherNonce agentPubkey signature)
    buffer).1

/-- **The ingress pipeline is sound and complete.** A packet is accepted
exactly when each stage passes, the bytes opened being those verified and
parsed; a refused one gets the error of the first stage that fails,
whatever the later stages are; and an honest packet is accepted. -/
theorem received_exact (hcipher : aead.Lawful) (hsign : ed25519.Lawful) :
    (∀ agentPubkey signature buffer,
      (∀ p, received aead ed25519 schema cipherKey cipherNonce agentPubkey signature buffer
          = .ok p ↔
        16 ≤ buffer.length ∧ ∃ m, Decrypts aead cipherKey cipherNonce buffer m ∧
          ed25519.verify agentPubkey m signature = true ∧ schema.WellFormed m p) ∧
      (received aead ed25519 schema cipherKey cipherNonce agentPubkey signature buffer
          = .error .bufferTooSmall ↔ buffer.length < 16) ∧
      (received aead ed25519 schema cipherKey cipherNonce agentPubkey signature buffer
          = .error .decryptionFailed ↔
        16 ≤ buffer.length ∧ ∀ m, ¬ Decrypts aead cipherKey cipherNonce buffer m) ∧
      (received aead ed25519 schema cipherKey cipherNonce agentPubkey signature buffer
          = .error .signatureVerificationFailed ↔
        ∃ m, Decrypts aead cipherKey cipherNonce buffer m ∧
          ed25519.verify agentPubkey m signature = false) ∧
      (received aead ed25519 schema cipherKey cipherNonce agentPubkey signature buffer
          = .error .parsingFailed ↔
        ∃ m, Decrypts aead cipherKey cipherNonce buffer m ∧
          ed25519.verify agentPubkey m signature = true ∧ ∀ p, ¬ schema.WellFormed m p)) ∧
    ∀ signingKey m p packet signature, schema.WellFormed m p →
      generateValidPacket aead ed25519 signingKey cipherKey cipherNonce m
        = some (packet, signature) →
      received aead ed25519 schema cipherKey cipherNonce (ed25519.verifyingKey signingKey)
        signature packet = .ok p := by
  unfold received
  simp only [call_processIngressPacket, outcome_eq_ok, outcome_eq_error, admitted_eq_error]
  refine ⟨fun agentPubkey signature buffer => ⟨fun p => ?_, ?_, ?_, ?_, ?_⟩, ?_⟩
  · exact ⟨fun ⟨m, hm, h⟩ => ⟨hm.length_le, m, hm, h⟩, fun h => h.2⟩
  · simp
  · simp
  · simp
  · simp
  · intro signingKey m p packet signature hwf hgen
    obtain ⟨hdecrypts, rfl⟩ := decrypts_of_generated hcipher hgen
    exact ⟨m, hdecrypts, hsign signingKey m, hwf⟩

end Pipeline

/-! ## One packet -/

/-- The generated module reads a payload from any ten bytes, and finds both
fields in it. -/
theorem builtSchema_wellFormed {m p : List UInt8} :
    builtSchema.WellFormed m p ↔ 10 ≤ m.length ∧ p = m := by
  constructor
  · rintro ⟨hroot, -, -⟩
    simp only [builtSchema] at hroot
    split at hroot
    · cases hroot
    · exact ⟨by omega, (Option.some.inj hroot).symm⟩
  · rintro ⟨hlen, rfl⟩
    exact ⟨by simp [builtSchema, hlen], rfl, rfl⟩

/-- The text `NHP-KNK 01`. -/
def knock : List UInt8 := [78, 72, 80, 45, 75, 78, 75, 32, 48, 49]

/-- What ChaCha20 makes of `knock`, under the all-zero key and nonce. -/
def knockCiphertext : List UInt8 := [209, 79, 183, 147, 30, 31, 115, 90, 168, 139]

/-- The Poly1305 tag of `knockCiphertext`. -/
def knockTag : Octets 16 :=
  ⟨[207, 64, 182, 224, 7, 240, 115, 226, 52, 178, 61, 76, 140, 82, 67, 145], rfl⟩

/-- The Ed25519 signature of `knock` under the all-zero seed. -/
def knockSignature : Octets 64 :=
  ⟨[247, 47, 124, 211, 203, 215, 205, 165, 185, 104, 115, 66, 63, 224, 98, 30,
    232, 83, 179, 11, 0, 113, 31, 152, 234, 130, 144, 38, 199, 255, 79, 111,
    229, 90, 17, 168, 246, 19, 126, 40, 208, 50, 45, 98, 47, 61, 70, 100,
    133, 207, 40, 196, 12, 18, 154, 219, 230, 116, 84, 194, 185, 218, 185, 3], rfl⟩

/-- The public key of the all-zero seed. -/
def agentKey : Octets 32 :=
  ⟨[59, 106, 39, 188, 206, 182, 164, 45, 98, 163, 168, 208, 42, 111, 13, 115,
    101, 50, 21, 119, 29, 226, 67, 166, 58, 192, 72, 161, 139, 89, 218, 41], rfl⟩

/-- ChaCha20-Poly1305 on that one packet, and a cipher that refuses
everything else. -/
def knockAead : Aead (Octets 32) (Octets 12) 16 where
  encryptInPlaceDetached key nonce aad := ExceptT.mk fun plaintext =>
    if key = List.Vector.replicate 32 0 ∧ nonce = List.Vector.replicate 12 0 ∧ aad = [] ∧
      plaintext = knock then (.ok knockTag, knockCiphertext)
    else (.error (), plaintext)
  decryptInPlaceDetached key nonce aad tag := ExceptT.mk fun ciphertext =>
    if key = List.Vector.replicate 32 0 ∧ nonce = List.Vector.replicate 12 0 ∧ aad = [] ∧
      tag = knockTag ∧ ciphertext = knockCiphertext then (.ok (), knock)
    else (.error (), ciphertext)
  length_decrypt key nonce aad tag buffer := by
    simp only [Fallible.call, ExceptT.run_mk, StateT.run]
    split
    · next h => rw [h.2.2.2.2]; rfl
    · rfl

/-- The signature of a message; that of `knock` is Ed25519's. -/
def signatureOf (message : List UInt8) : Octets 64 :=
  if message = knock then knockSignature else List.Vector.replicate 64 0

/-- A signature scheme that is Ed25519 on that one message and key. -/
def knockEd25519 : SignatureScheme (Octets 32) (Octets 32) (Octets 64) where
  verifyingKey _ := agentKey
  sign _ message := signatureOf message
  verify key message signature := key = agentKey ∧ signature = signatureOf message

theorem knockAead_lawful : knockAead.Lawful := by
  intro key nonce aad plaintext ciphertext tag h
  simp only [Aead.sealed, knockAead, Fallible.call, ExceptT.run_mk, StateT.run] at h
  simp only [Aead.opened, knockAead, Fallible.call, ExceptT.run_mk, StateT.run]
  split at h
  · next tag' ciphertext' heq =>
    obtain ⟨rfl, rfl⟩ := Prod.mk.inj (Option.some.inj h)
    split at heq
    · next hsample =>
      obtain ⟨hkey, hnonce, haad, hplain⟩ := hsample
      obtain ⟨htag, hcipher⟩ := Prod.mk.inj heq
      rw [if_pos ⟨hkey, hnonce, haad, (Except.ok.inj htag).symm, hcipher.symm⟩, hplain]
    · cases heq
  · cases h

theorem knockEd25519_lawful : knockEd25519.Lawful := by
  intro key message
  simp [knockEd25519]

/-- The packet of the all-zero keys is accepted. -/
theorem received_knock :
    received knockAead knockEd25519 builtSchema (List.Vector.replicate 32 0)
      (List.Vector.replicate 12 0) agentKey knockSignature
      (knockCiphertext ++ knockTag.toList) = .ok knock := by
  have hwf : builtSchema.WellFormed knock knock :=
    builtSchema_wellFormed.2 ⟨by decide, rfl⟩
  have hgen : generateValidPacket knockAead knockEd25519 (List.Vector.replicate 32 0)
      (List.Vector.replicate 32 0) (List.Vector.replicate 12 0) knock
      = some (knockCiphertext ++ knockTag.toList, knockSignature) := by
    rfl
  exact (received_exact knockAead_lawful knockEd25519_lawful).2 _ knock knock _ _ hwf hgen

end Ingress

end NhpSba
