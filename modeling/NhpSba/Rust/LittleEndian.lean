import NhpSba.Rust.BigEndian
/-!
# Little-endian numbers

The bytes of the big-endian writing the other way round. Zero bytes above
the others add nothing to a number (`ofBytes_append_zeros`), and the low
bytes of its writing are its writing in fewer bytes (`take_toBytes`).
-/

namespace NhpSba

namespace LittleEndian

/-- The `w` low bytes of a number, the least significant first. -/
def toBytes (w n : ℕ) : List UInt8 := (BigEndian.toBytes w n).reverse

/-- The number that some bytes write. -/
def ofBytes (bs : List UInt8) : ℕ := BigEndian.ofBytes bs.reverse

@[simp] theorem length_toBytes (w n : ℕ) : (toBytes w n).length = w := by
  rw [toBytes, List.length_reverse, BigEndian.length_toBytes]

@[simp] theorem ofBytes_nil : ofBytes [] = 0 := rfl

theorem toBytes_succ (w n : ℕ) : toBytes (w + 1) n = UInt8.ofNat n :: toBytes w (n / 256) := by
  rw [toBytes, BigEndian.toBytes, List.reverse_append, List.reverse_singleton,
    List.singleton_append, toBytes]

theorem ofBytes_cons (b : UInt8) (bs : List UInt8) :
    ofBytes (b :: bs) = ofBytes bs * 256 + b.toNat := by
  rw [ofBytes, List.reverse_cons, BigEndian.ofBytes_concat, ofBytes]

theorem ofBytes_lt (bs : List UInt8) : ofBytes bs < 256 ^ bs.length := by
  have hlt := BigEndian.ofBytes_lt bs.reverse
  rwa [List.length_reverse] at hlt

/-- Reading undoes writing, up to the high bytes that were not written. -/
theorem ofBytes_toBytes_mod (w n : ℕ) : ofBytes (toBytes w n) = n % 256 ^ w := by
  rw [ofBytes, toBytes, List.reverse_reverse, BigEndian.ofBytes_toBytes_mod]

/-- **Writing undoes reading.** -/
theorem toBytes_ofBytes (bs : List UInt8) : toBytes bs.length (ofBytes bs) = bs := by
  have hread := BigEndian.toBytes_ofBytes bs.reverse
  rw [List.length_reverse] at hread
  rw [toBytes, ofBytes, hread, List.reverse_reverse]

/-- Zero bytes at the high end add nothing. -/
theorem ofBytes_append_zeros (bs : List UInt8) (k : ℕ) :
    ofBytes (bs ++ List.replicate k 0) = ofBytes bs := by
  induction bs with
  | nil =>
    induction k with
    | zero => rfl
    | succ k ih =>
      rw [List.nil_append] at ih ⊢
      rw [List.replicate_succ, ofBytes_cons, ih]
      rfl
  | cons b bs ih => rw [List.cons_append, ofBytes_cons, ih, ofBytes_cons]

/-- The low bytes of a writing are the writing in fewer bytes. -/
theorem take_toBytes {v w : ℕ} (h : v ≤ w) (n : ℕ) : (toBytes w n).take v = toBytes v n := by
  induction v generalizing w n with
  | zero => rfl
  | succ v ih =>
    obtain ⟨w, rfl⟩ : ∃ u, w = u + 1 := ⟨w - 1, by omega⟩
    rw [toBytes_succ, toBytes_succ, List.take_succ_cons, ih (by omega)]

end LittleEndian

namespace Rust

/-- `u128::from_le_bytes`, of sixteen bytes. -/
def fromLeBytes (bytes : List UInt8) : BitVec 128 := BitVec.ofNat 128 (LittleEndian.ofBytes bytes)

/-- `x.to_le_bytes()` of a `u128`. -/
def toLeBytes (x : BitVec 128) : List UInt8 := LittleEndian.toBytes 16 x.toNat

@[simp] theorem length_toLeBytes (x : BitVec 128) : (toLeBytes x).length = 16 :=
  LittleEndian.length_toBytes 16 x.toNat

theorem toNat_fromLeBytes {bytes : List UInt8} (h : bytes.length = 16) :
    (fromLeBytes bytes).toNat = LittleEndian.ofBytes bytes := by
  have hlt : LittleEndian.ofBytes bytes < 2 ^ 128 :=
    calc LittleEndian.ofBytes bytes < 256 ^ bytes.length := LittleEndian.ofBytes_lt bytes
      _ = 2 ^ 128 := by rw [h]; norm_num
  rw [fromLeBytes, BitVec.toNat_ofNat, Nat.mod_eq_of_lt hlt]

end Rust

end NhpSba
