import Mathlib.Data.List.Induction
import Mathlib.Data.Nat.Notation
import Mathlib.Algebra.Order.Group.Nat
import Mathlib.Tactic.NormNum
import Mathlib.Tactic.Ring
/-!
# Big-endian numbers

A number below `256 ^ w` is written in exactly `w` bytes, the most
significant first. Writing and reading undo each other
(`ofBytes_toBytes`, `toBytes_ofBytes`); a number that does not fit loses
its high bytes.
-/

namespace NhpSba

namespace BigEndian

/-- The `w` low bytes of a number, the most significant first. -/
def toBytes : ℕ → ℕ → List UInt8
  | 0, _ => []
  | w + 1, n => toBytes w (n / 256) ++ [UInt8.ofNat n]

/-- The number that some bytes write. -/
def ofBytes (bs : List UInt8) : ℕ := bs.foldl (fun n b => n * 256 + b.toNat) 0

@[simp] theorem length_toBytes (w n : ℕ) : (toBytes w n).length = w := by
  induction w generalizing n with
  | zero => rfl
  | succ w ih => rw [toBytes, List.length_append, ih, List.length_singleton]

@[simp] theorem ofBytes_nil : ofBytes [] = 0 := rfl

theorem ofBytes_concat (bs : List UInt8) (b : UInt8) :
    ofBytes (bs ++ [b]) = ofBytes bs * 256 + b.toNat := by
  rw [ofBytes, List.foldl_append]
  rfl

theorem ofBytes_lt (bs : List UInt8) : ofBytes bs < 256 ^ bs.length := by
  induction bs using List.reverseRecOn with
  | nil => exact Nat.one_pos
  | append_singleton bs b ih =>
    have hb : b.toNat < 256 := b.toNat_lt
    rw [ofBytes_concat, List.length_append, List.length_singleton, pow_succ]
    omega

/-- Reading undoes writing, up to the high bytes that were not written. -/
theorem ofBytes_toBytes_mod (w n : ℕ) : ofBytes (toBytes w n) = n % 256 ^ w := by
  induction w generalizing n with
  | zero => rw [toBytes, ofBytes_nil, pow_zero, Nat.mod_one]
  | succ w ih =>
    have hbyte : (UInt8.ofNat n).toNat = n % 256 := UInt8.toNat_ofNat'
    rw [toBytes, ofBytes_concat, ih, hbyte, pow_succ', Nat.mod_mul]
    ring

/-- **Reading undoes writing**, for a number that fits. -/
theorem ofBytes_toBytes {w n : ℕ} (h : n < 256 ^ w) : ofBytes (toBytes w n) = n := by
  rw [ofBytes_toBytes_mod, Nat.mod_eq_of_lt h]

/-- **Writing undoes reading.** -/
theorem toBytes_ofBytes (bs : List UInt8) : toBytes bs.length (ofBytes bs) = bs := by
  induction bs using List.reverseRecOn with
  | nil => rfl
  | append_singleton bs b ih =>
    have hb : b.toNat < 256 := b.toNat_lt
    have hhigh : (ofBytes bs * 256 + b.toNat) / 256 = ofBytes bs := by omega
    have hlow : UInt8.ofNat (ofBytes bs * 256 + b.toNat) = b := by
      apply UInt8.toNat_inj.1
      rw [UInt8.toNat_ofNat']
      omega
    rw [List.length_append, List.length_singleton, ofBytes_concat, toBytes, hhigh, hlow, ih]

end BigEndian

namespace Rust

/-- `x.to_be_bytes()` of a `u32`. -/
def toBeBytes (x : UInt32) : List UInt8 := BigEndian.toBytes 4 x.toNat

/-- `u32::from_be_bytes`. -/
def fromBeBytes (a b c d : UInt8) : UInt32 := UInt32.ofNat (BigEndian.ofBytes [a, b, c, d])

@[simp] theorem length_toBeBytes (x : UInt32) : (toBeBytes x).length = 4 :=
  BigEndian.length_toBytes 4 x.toNat

theorem toNat_fromBeBytes (a b c d : UInt8) :
    (fromBeBytes a b c d).toNat = BigEndian.ofBytes [a, b, c, d] := by
  have hlt : BigEndian.ofBytes [a, b, c, d] < 2 ^ 32 :=
    calc BigEndian.ofBytes [a, b, c, d] < 256 ^ 4 := BigEndian.ofBytes_lt [a, b, c, d]
      _ = 2 ^ 32 := by norm_num
  rw [fromBeBytes, UInt32.toNat_ofNat', Nat.mod_eq_of_lt hlt]

/-- Four bytes are the writing of the number they read as. -/
@[simp] theorem toBeBytes_fromBeBytes (a b c d : UInt8) :
    toBeBytes (fromBeBytes a b c d) = [a, b, c, d] := by
  rw [toBeBytes, toNat_fromBeBytes]
  exact BigEndian.toBytes_ofBytes [a, b, c, d]

/-- A number is the reading of the four bytes it is written in. -/
theorem exists_fromBeBytes (x : UInt32) :
    ∃ a b c d, toBeBytes x = [a, b, c, d] ∧ fromBeBytes a b c d = x := by
  refine ⟨_, _, _, _, rfl, UInt32.toNat_inj.1 ?_⟩
  rw [toNat_fromBeBytes]
  exact BigEndian.ofBytes_toBytes (w := 4) x.toNat_lt

end Rust

end NhpSba
