import NhpSba.Wire.Model.Packet
/-!
# The packet codec is exact

On a machine of 64 bits the reader takes a packet off the front of its
buffer exactly when the buffer starts with that packet's writing and the
payload fits the length field (`fromBytes_eq_ok_iff`). Reading is one
equation on a buffer with a whole header (`fromBytes_header`), so both
directions are about the header's nine bytes and the cut of what follows.
On 32 bits the sum of the header and the announced length may overflow,
and the reader panics exactly there (`fromBytes_total`).
-/

namespace NhpSba

namespace Wire

open Rust

/-- The byte of a type is read as that type. -/
@[simp] theorem ofByte_toByte (ty : NhpPacketType) : NhpPacketType.ofByte ty.toByte = some ty := by
  cases ty <;> rfl

/-- And no other byte is. -/
theorem ofByte_eq_some {b : UInt8} {ty : NhpPacketType} :
    NhpPacketType.ofByte b = some ty ↔ b = ty.toByte := by
  constructor
  · intro h
    unfold NhpPacketType.ofByte at h
    split_ifs at h with h1 h2 h3 h4 h5 h6 <;> cases h <;> assumption
  · rintro rfl
    exact ofByte_toByte ty

/-- A buffer of nine bytes or more is a header of nine bytes and a rest. -/
theorem exists_header {data : List UInt8} (h : ¬data.length < 9) :
    ∃ b₀ b₁ b₂ b₃ b₄ b₅ b₆ b₇ b₈ rest,
      data = b₀ :: b₁ :: b₂ :: b₃ :: b₄ :: b₅ :: b₆ :: b₇ :: b₈ :: rest := by
  rcases data with _ | ⟨b₀, _ | ⟨b₁, _ | ⟨b₂, _ | ⟨b₃, _ | ⟨b₄, _ | ⟨b₅, _ | ⟨b₆, _ | ⟨b₇,
    _ | ⟨b₈, rest⟩⟩⟩⟩⟩⟩⟩⟩⟩
  case cons.cons.cons.cons.cons.cons.cons.cons.cons =>
    exact ⟨b₀, b₁, b₂, b₃, b₄, b₅, b₆, b₇, b₈, rest, rfl⟩
  all_goals
    simp at h

/-- A header is nine bytes. -/
theorem header_not_short {b₀ b₁ b₂ b₃ b₄ b₅ b₆ b₇ b₈ : UInt8} {rest : List UInt8} :
    ¬(b₀ :: b₁ :: b₂ :: b₃ :: b₄ :: b₅ :: b₆ :: b₇ :: b₈ :: rest).length < 9 := by
  simp only [List.length_cons]
  omega

/-- And what follows it is the rest of the buffer. -/
theorem header_length (b₀ b₁ b₂ b₃ b₄ b₅ b₆ b₇ b₈ : UInt8) (rest : List UInt8) :
    (b₀ :: b₁ :: b₂ :: b₃ :: b₄ :: b₅ :: b₆ :: b₇ :: b₈ :: rest).length = 9 + rest.length := by
  simp only [List.length_cons]
  omega

namespace NhpPacket

variable {bits : ℕ} {data : List UInt8} {p : NhpPacket}

/-- A header of no packet type is refused before its length is looked at. -/
theorem fromBytes_unknown {t s₁ s₂ s₃ s₄ l₁ l₂ l₃ l₄ : UInt8} {rest : List UInt8}
    (hty : NhpPacketType.ofByte t = none) :
    fromBytes bits (t :: s₁ :: s₂ :: s₃ :: s₄ :: l₁ :: l₂ :: l₃ :: l₄ :: rest) =
      .ok (.error ("Unknown packet type: 0x" ++ hexByte t)) := by
  rw [fromBytes, if_neg header_not_short]
  simp [hty, bind, Except.bind, pure, Except.pure]

/-- **Reading a buffer with a whole header**, where the sum of the header
and the announced length does not overflow: no step panics. -/
theorem fromBytes_header {t s₁ s₂ s₃ s₄ l₁ l₂ l₃ l₄ : UInt8} {rest : List UInt8}
    (hbits : 32 ≤ bits) (hfit : 9 + (fromBeBytes l₁ l₂ l₃ l₄).toNat < 2 ^ bits) :
    fromBytes bits (t :: s₁ :: s₂ :: s₃ :: s₄ :: l₁ :: l₂ :: l₃ :: l₄ :: rest) = .ok (
      match NhpPacketType.ofByte t with
      | none => .error ("Unknown packet type: 0x" ++ hexByte t)
      | some packetType =>
        if rest.length < (fromBeBytes l₁ l₂ l₃ l₄).toNat then
          .error ("Packet payload truncated: expected " ++
            toString (fromBeBytes l₁ l₂ l₃ l₄).toNat ++ " bytes, got " ++ toString rest.length)
        else
          .ok { packetType, payload := rest.take (fromBeBytes l₁ l₂ l₃ l₄).toNat,
                sequence := fromBeBytes s₁ s₂ s₃ s₄ }) := by
  have hlen := header_length t s₁ s₂ s₃ s₄ l₁ l₂ l₃ l₄ rest
  cases hty : NhpPacketType.ofByte t with
  | none => exact fromBytes_unknown hty
  | some packetType =>
    rw [fromBytes, if_neg header_not_short]
    have hadd := usizeAdd_eq_ok hfit
    -- the source compares lengths that count the header
    by_cases hcut : rest.length < (fromBeBytes l₁ l₂ l₃ l₄).toNat
    · have hsub : usizeSub (9 + rest.length) 9 = .ok rest.length := by
        rw [usizeSub_eq_ok (by omega), Nat.add_sub_cancel_left]
      have hlt : 9 + rest.length < 9 + (fromBeBytes l₁ l₂ l₃ l₄).toNat := by omega
      simp only [index_zero, index_succ, bind, Except.bind, hty, asUsize_eq _ hbits, hadd, hlen,
        hsub, if_pos hlt, if_pos hcut, pure, Except.pure]
    · have hslice := slice_append [t, s₁, s₂, s₃, s₄, l₁, l₂, l₃, l₄] (Nat.le_of_not_lt hcut)
      have hle : ¬9 + rest.length < 9 + (fromBeBytes l₁ l₂ l₃ l₄).toNat := by omega
      simp only [List.cons_append, List.nil_append, List.length_cons, List.length_nil,
        Nat.zero_add, Nat.reduceAdd] at hslice
      simp only [index_zero, index_succ, bind, Except.bind, hty, asUsize_eq _ hbits, hadd, hlen,
        hslice, if_neg hle, if_neg hcut, pure, Except.pure]

/-- A buffer shorter than the header is refused. -/
theorem fromBytes_short (h : data.length < 9) :
    fromBytes bits data =
      .ok (.error ("Packet too short: " ++ toString data.length ++ " bytes (minimum 9)")) :=
  if_pos h

/-- The sum of the header and a length of 32 bits fits 64 bits. -/
theorem length_fits (x : UInt32) : 9 + x.toNat < 2 ^ 64 := by
  have := x.toNat_lt
  omega

/-- The writing of a packet whose payload fits the length field: the
header's bytes, each group of which reads as its field, and the payload. -/
theorem toBytes_eq (h : p.payload.length < 2 ^ 32) :
    ∃ s₁ s₂ s₃ s₄ l₁ l₂ l₃ l₄,
      p.toBytes =
        p.packetType.toByte :: s₁ :: s₂ :: s₃ :: s₄ :: l₁ :: l₂ :: l₃ :: l₄ :: p.payload ∧
      fromBeBytes s₁ s₂ s₃ s₄ = p.sequence ∧
      (fromBeBytes l₁ l₂ l₃ l₄).toNat = p.payload.length := by
  obtain ⟨s₁, s₂, s₃, s₄, hseq, hs⟩ := exists_fromBeBytes p.sequence
  obtain ⟨l₁, l₂, l₃, l₄, hlen, hl⟩ := exists_fromBeBytes (UInt32.ofNat p.payload.length)
  refine ⟨s₁, s₂, s₃, s₄, l₁, l₂, l₃, l₄, ?_, hs, ?_⟩
  · rw [toBytes, hseq, hlen]
    rfl
  · rw [hl, UInt32.toNat_ofNat', Nat.mod_eq_of_lt h]

/-- **What is read was written.** A packet that the reader took off a
buffer has a payload that fits, and the buffer starts with its writing. -/
theorem prefix_of_fromBytes (h : fromBytes 64 data = .ok (.ok p)) :
    p.payload.length < 2 ^ 32 ∧ p.toBytes <+: data := by
  by_cases hshort : data.length < 9
  · rw [fromBytes_short hshort] at h
    cases h
  obtain ⟨t, s₁, s₂, s₃, s₄, l₁, l₂, l₃, l₄, rest, rfl⟩ := exists_header hshort
  rw [fromBytes_header (by omega) (length_fits _)] at h
  have h := Except.ok.inj h
  split at h
  · cases h
  · next packetType hty =>
    have ht := ofByte_eq_some.1 hty
    split at h
    · cases h
    · next hcut =>
      obtain rfl := Except.ok.inj h
      have hlt := (fromBeBytes l₁ l₂ l₃ l₄).toNat_lt
      have hlen : (rest.take (fromBeBytes l₁ l₂ l₃ l₄).toNat).length
          = (fromBeBytes l₁ l₂ l₃ l₄).toNat := by
        rw [List.length_take]
        omega
      refine ⟨?_, rest.drop (fromBeBytes l₁ l₂ l₃ l₄).toNat, ?_⟩
      · show (rest.take (fromBeBytes l₁ l₂ l₃ l₄).toNat).length < 2 ^ 32
        rw [hlen]
        exact hlt
      · -- the length that is written is the one that was read
        simp only [toBytes, hlen, UInt32.ofNat_toNat, toBeBytes_fromBeBytes, ← ht,
          List.cons_append, List.nil_append, List.take_append_drop]

/-- **What was written is read**, whatever follows it in the buffer. -/
theorem fromBytes_of_prefix (hlen : p.payload.length < 2 ^ 32) (h : p.toBytes <+: data) :
    fromBytes 64 data = .ok (.ok p) := by
  obtain ⟨rest, rfl⟩ := h
  obtain ⟨s₁, s₂, s₃, s₄, l₁, l₂, l₃, l₄, hbytes, hs, hl⟩ := toBytes_eq hlen
  have hcut : ¬(p.payload ++ rest).length < p.payload.length := by
    rw [List.length_append]
    omega
  rw [hbytes]
  simp only [List.cons_append]
  rw [fromBytes_header (by omega) (length_fits _), ofByte_toByte, hs, hl]
  simp only [if_neg hcut, List.take_left]

/-- **The codec, exactly.** -/
theorem fromBytes_eq_ok_iff :
    fromBytes 64 data = .ok (.ok p) ↔ p.payload.length < 2 ^ 32 ∧ p.toBytes <+: data :=
  ⟨prefix_of_fromBytes, fun h => fromBytes_of_prefix h.1 h.2⟩

/-- On 64 bits the reader never panics. -/
theorem fromBytes_returns (data : List UInt8) : ∃ result, fromBytes 64 data = .ok result := by
  by_cases hshort : data.length < 9
  · exact ⟨_, fromBytes_short hshort⟩
  · obtain ⟨t, s₁, s₂, s₃, s₄, l₁, l₂, l₃, l₄, rest, rfl⟩ := exists_header hshort
    exact ⟨_, fromBytes_header (by omega) (length_fits _)⟩

/-! ## Where reading panics -/

/-- A header of a packet type announces an end that is no `usize`. -/
def EndOverflows (bits : ℕ) : List UInt8 → Prop
  | t :: _ :: _ :: _ :: _ :: l₁ :: l₂ :: l₃ :: l₄ :: _ =>
    (NhpPacketType.ofByte t).isSome ∧ 2 ^ bits ≤ 9 + (fromBeBytes l₁ l₂ l₃ l₄).toNat
  | _ => False

/-- A short buffer has no header. -/
theorem not_endOverflows_of_short (h : data.length < 9) : ¬ EndOverflows bits data := by
  intro hover
  unfold EndOverflows at hover
  split at hover
  · simp only [List.length_cons] at h
    omega
  · exact hover

/-- The sum that is compared with the buffer's length panics first. -/
theorem fromBytes_overflow {t s₁ s₂ s₃ s₄ l₁ l₂ l₃ l₄ : UInt8} {rest : List UInt8}
    (hbits : 32 ≤ bits)
    (h : EndOverflows bits (t :: s₁ :: s₂ :: s₃ :: s₄ :: l₁ :: l₂ :: l₃ :: l₄ :: rest)) :
    fromBytes bits (t :: s₁ :: s₂ :: s₃ :: s₄ :: l₁ :: l₂ :: l₃ :: l₄ :: rest) =
      .error .overflow := by
  obtain ⟨hknown, hover⟩ := h
  obtain ⟨packetType, hty⟩ := Option.isSome_iff_exists.1 hknown
  have hadd : usizeAdd bits 9 (fromBeBytes l₁ l₂ l₃ l₄).toNat = .error .overflow :=
    if_neg (Nat.not_lt.2 hover)
  rw [fromBytes, if_neg header_not_short]
  simp only [index_zero, index_succ, bind, Except.bind, hty, asUsize_eq _ hbits, hadd]

/-- **Reading panics where the announced end overflows**, and nowhere
else. -/
theorem exists_fromBytes_iff (hbits : 32 ≤ bits) :
    (∃ result, fromBytes bits data = .ok result) ↔ ¬ EndOverflows bits data := by
  by_cases hshort : data.length < 9
  · exact iff_of_true ⟨_, fromBytes_short hshort⟩ (not_endOverflows_of_short hshort)
  · obtain ⟨t, s₁, s₂, s₃, s₄, l₁, l₂, l₃, l₄, rest, rfl⟩ := exists_header hshort
    constructor
    · rintro ⟨result, hok⟩ hover
      rw [fromBytes_overflow hbits hover] at hok
      cases hok
    · intro hfits
      cases hty : NhpPacketType.ofByte t with
      | none => exact ⟨_, fromBytes_unknown hty⟩
      | some packetType =>
        refine ⟨_, fromBytes_header hbits (Nat.not_le.1 fun hover => hfits ⟨?_, hover⟩)⟩
        rw [hty]
        rfl

/-- **When reading returns.** On 64 bits always; on 32 bits exactly where
the end that the header announces is a `usize`. -/
theorem fromBytes_total (data : List UInt8) :
    ((∃ result, fromBytes 32 data = .ok result) ↔ ¬ EndOverflows 32 data) ∧
      ∃ result, fromBytes 64 data = .ok result :=
  ⟨exists_fromBytes_iff (Nat.le_refl 32), fromBytes_returns data⟩

/-- **Nine bytes that panic** on 32 bits: a knock request that announces a
payload of `2 ^ 32 - 1` bytes. -/
theorem fromBytes_panics :
    ¬ ∀ data, ∃ result, fromBytes 32 data = .ok result := by
  intro hevery
  have hpanic : fromBytes 32 [0x01, 0, 0, 0, 0, 0xFF, 0xFF, 0xFF, 0xFF] = .error .overflow := by
    decide +kernel
  obtain ⟨result, hok⟩ := hevery [0x01, 0, 0, 0, 0, 0xFF, 0xFF, 0xFF, 0xFF]
  rw [hpanic] at hok
  cases hok

/-- **The packet codec.** A packet is read exactly off the buffers that
start with its writing; so reading undoes writing, a packet read is
written in exactly the bytes it was read from, and a buffer that starts
with no packet's writing is refused. -/
theorem codec_exact :
    (∀ data p, fromBytes 64 data = .ok (.ok p) ↔
      p.payload.length < 2 ^ 32 ∧ p.toBytes <+: data) ∧
    (∀ p : NhpPacket, p.payload.length < 2 ^ 32 → fromBytes 64 p.toBytes = .ok (.ok p)) ∧
    (∀ data p, fromBytes 64 data = .ok (.ok p) →
      p.toBytes = data.take (9 + p.payload.length)) ∧
    ∀ data, (¬∃ p : NhpPacket, p.toBytes <+: data) →
      ∃ error, fromBytes 64 data = .ok (.error error) := by
  refine ⟨fun _ _ => fromBytes_eq_ok_iff, fun p hlen => ?_, fun data p h => ?_, fun data h => ?_⟩
  · exact fromBytes_of_prefix hlen (List.prefix_refl _)
  · have hprefix := (prefix_of_fromBytes h).2
    have hlen : p.toBytes.length = 9 + p.payload.length := by
      simp only [toBytes, List.length_append, List.length_singleton, length_toBeBytes]
    rw [List.prefix_iff_eq_take.1 hprefix, hlen]
  · obtain ⟨result, hresult⟩ := fromBytes_returns data
    cases result with
    | error error => exact ⟨error, hresult⟩
    | ok p => exact absurd ⟨p, (prefix_of_fromBytes hresult).2⟩ h

/-- A knock request that greets the world goes through the codec. -/
theorem codec_exact_hello :
    let hello : NhpPacket :=
      { packetType := .knkRequest, payload := "hello world".toUTF8.toList, sequence := 42 }
    fromBytes 64 hello.toBytes = .ok (.ok hello) :=
  codec_exact.2.1 _ (by decide +kernel)

end NhpPacket

namespace NhpTransport

/-- The transport delivers what it was given, as long as the payload fits. -/
theorem decodePacket_encodePacket {p : NhpPacket} (h : p.payload.length < 2 ^ 32) :
    decodePacket 64 (encodePacket p) = .ok (.ok p) :=
  NhpPacket.fromBytes_of_prefix h (List.prefix_refl _)

/-- **What the transport creates arrives**: each of its four packets is
decoded as itself, and the two without a payload always. -/
theorem decodePacket_created (payload : List UInt8) (sequence : UInt32) :
    (payload.length < 2 ^ 32 →
      decodePacket 64 (encodePacket (createKnkRequest payload sequence)) =
        .ok (.ok { packetType := .knkRequest, payload, sequence }) ∧
      decodePacket 64 (encodePacket (createSessionData payload sequence)) =
        .ok (.ok { packetType := .sessionData, payload, sequence })) ∧
    decodePacket 64 (encodePacket (createHeartbeat sequence)) =
      .ok (.ok { packetType := .heartbeat, payload := [], sequence }) ∧
    decodePacket 64 (encodePacket (createTeardown sequence)) =
      .ok (.ok { packetType := .sessionTeardown, payload := [], sequence }) := by
  have hempty : ([] : List UInt8).length < 2 ^ 32 := by decide
  refine ⟨fun h => ⟨?_, ?_⟩, ?_, ?_⟩
  · exact decodePacket_encodePacket (p := createKnkRequest payload sequence) h
  · exact decodePacket_encodePacket (p := createSessionData payload sequence) h
  · exact decodePacket_encodePacket (p := createHeartbeat sequence) hempty
  · exact decodePacket_encodePacket (p := createTeardown sequence) hempty

end NhpTransport

end Wire

end NhpSba
