import NhpSba.Wire.Model.Http2Frame
import NhpSba.Wire.Packet
/-!
# The extension frame loses what its length field cannot hold

What comes back from a frame's writing is the frame with its payload cut
to the length's low 24 bits (`fromBytes_toBytes`). So the round trip holds
exactly of payloads shorter than `2 ^ 24` (`roundTrip_iff`), and a longer
one is cut short without an error from either side.
-/

namespace NhpSba

namespace Wire

open Rust

namespace NhpSbaHttp2Frame

/-! ## The two masked fields, as numbers -/

/-- A mask of low bits is a remainder. -/
theorem toNat_and_mask {x mask : UInt32} {k : ℕ} (h : mask.toNat = 2 ^ k - 1) :
    (x &&& mask).toNat = x.toNat % 2 ^ k := by
  rw [UInt32.toNat_and, h, Nat.and_two_pow_sub_one_eq_mod]

/-- Three bytes, shifted into place, are a number in base 256. -/
theorem toNat_readLength (a b c : UInt8) :
    (readLength a b c).toNat = a.toNat * 65536 + b.toNat * 256 + c.toNat := by
  have ha : a.toNat < 256 := a.toNat_lt
  have hb : b.toNat < 256 := b.toNat_lt
  have hc : c.toNat < 2 ^ 8 := c.toNat_lt
  have hbc : b.toNat <<< 8 + c.toNat < 2 ^ 16 := by
    rw [Nat.shiftLeft_eq]
    omega
  have hshift : ∀ x : UInt8, ∀ k, k ≤ 16 → x.toNat <<< k % 2 ^ 32 = x.toNat <<< k := by
    intro x k hk
    have hx : x.toNat < 2 ^ 8 := x.toNat_lt
    have hpow : 2 ^ k ≤ 2 ^ 16 := Nat.pow_le_pow_right (by omega) hk
    rw [Nat.shiftLeft_eq]
    have hmul : x.toNat * 2 ^ k < 2 ^ 8 * 2 ^ 16 := Nat.mul_lt_mul_of_lt_of_le hx hpow (by omega)
    exact Nat.mod_eq_of_lt (lt_of_lt_of_le hmul (by omega))
  simp only [readLength, UInt32.toNat_or, UInt32.toNat_shiftLeft, UInt8.toNat_toUInt32]
  show a.toNat <<< 16 % 2 ^ 32 ||| b.toNat <<< 8 % 2 ^ 32 ||| c.toNat = _
  -- the three bytes do not overlap, so the disjunction is their sum
  rw [hshift a 16 (by omega), hshift b 8 (by omega), Nat.or_assoc,
    ← Nat.shiftLeft_add_eq_or_of_lt hc, ← Nat.shiftLeft_add_eq_or_of_lt hbc,
    Nat.shiftLeft_eq, Nat.shiftLeft_eq]
  omega

/-- What is read of a length is its low 24 bits. -/
theorem exists_readLength (length : UInt32) :
    ∃ a b c, lengthBytes length = [a, b, c] ∧
      (readLength a b c).toNat = length.toNat % 2 ^ 24 := by
  refine ⟨_, _, _, rfl, ?_⟩
  have hbyte : ∀ x : UInt32, (x &&& 0xFF).toUInt8.toNat = x.toNat % 256 := by
    intro x
    rw [UInt32.toNat_toUInt8, toNat_and_mask (k := 8) rfl]
    omega
  have hhigh : (length >>> 16).toNat = length.toNat / 65536 := by
    rw [UInt32.toNat_shiftRight]
    exact Nat.shiftRight_eq_div_pow _ 16
  have hmid : (length >>> 8).toNat = length.toNat / 256 := by
    rw [UInt32.toNat_shiftRight]
    exact Nat.shiftRight_eq_div_pow _ 8
  rw [toNat_readLength, hbyte, hbyte, hbyte, hhigh, hmid]
  omega

/-! ## What comes back -/

variable {bits : ℕ}

/-- **Reading a buffer with a whole header.** -/
theorem fromBytes_header {l₁ l₂ l₃ ty flags s₁ s₂ s₃ s₄ : UInt8} {rest : List UInt8}
    (hbits : 32 ≤ bits) :
    fromBytes bits (l₁ :: l₂ :: l₃ :: ty :: flags :: s₁ :: s₂ :: s₃ :: s₄ :: rest) = .ok (
      if ty ≠ 0x1A then .error ("Expected frame type 0x1A, got 0x" ++ hexByte ty)
      else if rest.length < (readLength l₁ l₂ l₃).toNat then .error "Frame payload truncated"
      else .ok { payload := rest.take (readLength l₁ l₂ l₃).toNat,
                 streamId := fromBeBytes s₁ s₂ s₃ s₄ &&& 0x7FFFFFFF }) := by
  have hlen := header_length l₁ l₂ l₃ ty flags s₁ s₂ s₃ s₄ rest
  -- the length has 24 bits
  have hfit : 9 + (readLength l₁ l₂ l₃).toNat < 2 ^ bits := by
    have h32 : 2 ^ 32 ≤ 2 ^ bits := Nat.pow_le_pow_right (by omega) hbits
    have h₁ : l₁.toNat < 256 := l₁.toNat_lt
    have h₂ : l₂.toNat < 256 := l₂.toNat_lt
    have h₃ : l₃.toNat < 256 := l₃.toNat_lt
    rw [toNat_readLength]
    omega
  have hadd := usizeAdd_eq_ok hfit
  rw [fromBytes, if_neg header_not_short]
  simp only [index_zero, index_succ, bind, Except.bind, asUsize_eq _ hbits, hadd, hlen]
  by_cases hty : ty = 0x1A
  · rw [if_neg (not_not.2 hty), if_neg (not_not.2 hty)]
    by_cases hcut : rest.length < (readLength l₁ l₂ l₃).toNat
    · have hlt : 9 + rest.length < 9 + (readLength l₁ l₂ l₃).toNat := by omega
      rw [if_pos hlt, if_pos hcut]
      rfl
    · have hle : ¬9 + rest.length < 9 + (readLength l₁ l₂ l₃).toNat := by omega
      have hslice := slice_append [l₁, l₂, l₃, ty, flags, s₁, s₂, s₃, s₄]
        (Nat.le_of_not_lt hcut)
      simp only [List.cons_append, List.nil_append, List.length_cons, List.length_nil,
        Nat.zero_add, Nat.reduceAdd] at hslice
      rw [if_neg hle, if_neg hcut, hslice]
      rfl
  · rw [if_pos hty, if_pos hty]
    rfl

/-- **What comes back of a frame.** The stream identifier without its top
bit, and as much of the payload as the low 24 bits of its length say. -/
theorem fromBytes_toBytes (hbits : 32 ≤ bits) (frame : NhpSbaHttp2Frame) :
    fromBytes bits frame.toBytes = .ok (.ok
      { payload := frame.payload.take (frame.payload.length % 2 ^ 24),
        streamId := frame.streamId &&& 0x7FFFFFFF }) := by
  obtain ⟨l₁, l₂, l₃, hlen, hl⟩ := exists_readLength (UInt32.ofNat frame.payload.length)
  obtain ⟨s₁, s₂, s₃, s₄, hstream, hs⟩ := exists_fromBeBytes (frame.streamId &&& 0x7FFFFFFF)
  have hread : (readLength l₁ l₂ l₃).toNat = frame.payload.length % 2 ^ 24 := by
    rw [hl, UInt32.toNat_ofNat']
    omega
  have hcut : ¬frame.payload.length < frame.payload.length % 2 ^ 24 :=
    Nat.not_lt.2 (Nat.mod_le _ _)
  rw [toBytes, hlen, hstream]
  simp only [List.cons_append, List.nil_append]
  rw [fromBytes_header hbits, hread, hs]
  simp only [if_neg hcut, ne_eq, not_true_eq_false, if_false, UInt32.and_assoc, UInt32.and_self]

/-- A stream identifier below `2 ^ 31` has no bit to lose. -/
theorem mask_eq_self {x : UInt32} (h : x.toNat < 2 ^ 31) : x &&& 0x7FFFFFFF = x := by
  apply UInt32.toNat_inj.1
  rw [toNat_and_mask (k := 31) rfl, Nat.mod_eq_of_lt h]

/-- **The round trip, exactly.** On a machine of 32 bits or more, a frame
with a stream identifier below `2 ^ 31` comes back with its stream
identifier and its payload exactly when the payload is shorter than
`2 ^ 24`. -/
theorem roundTrip_iff {bits : ℕ} (hbits : 32 ≤ bits) (streamId : UInt32) (payload : List UInt8)
    (hstream : streamId.toNat < 2 ^ 31) :
    (∃ frame, fromBytes bits (new streamId payload).toBytes = .ok (.ok frame) ∧
      frame.streamId = streamId ∧ frame.payload = payload) ↔ payload.length < 2 ^ 24 := by
  rw [fromBytes_toBytes hbits]
  constructor
  · rintro ⟨frame, hframe, -, hpayload⟩
    obtain rfl := Except.ok.inj (Except.ok.inj hframe)
    have hlen := congrArg List.length hpayload
    simp only [new, List.length_take] at hlen
    omega
  · intro hlen
    refine ⟨_, rfl, mask_eq_self hstream, ?_⟩
    simp only [new, Nat.mod_eq_of_lt hlen, List.take_length]

/-- A short token goes round. -/
theorem roundTrip_short :
    (∃ frame, fromBytes 64 (new 7 [0x53, 0x41, 0x54]).toBytes = .ok (.ok frame) ∧
      frame.streamId = 7 ∧ frame.payload = [0x53, 0x41, 0x54]) ↔
        [(0x53 : UInt8), 0x41, 0x54].length < 2 ^ 24 :=
  roundTrip_iff (by decide) 7 [0x53, 0x41, 0x54] (by decide)

/-- Sixteen mebibytes are written without an error and read back as an
empty payload. -/
theorem sixteenMebibytes_lost :
    ¬∀ (streamId : UInt32) (payload : List UInt8), streamId.toNat < 2 ^ 31 →
      ∃ frame, fromBytes 64 (new streamId payload).toBytes = .ok (.ok frame) ∧
        frame.streamId = streamId ∧ frame.payload = payload := by
  intro h
  obtain ⟨frame, hframe, -, hpayload⟩ := h 1 (List.replicate (2 ^ 24) 0) (by decide)
  rw [fromBytes_toBytes (by decide)] at hframe
  obtain rfl := Except.ok.inj (Except.ok.inj hframe)
  have hlen := congrArg List.length hpayload
  simp only [new, List.length_take, List.length_replicate] at hlen
  omega

end NhpSbaHttp2Frame

end Wire

end NhpSba
