import NhpSba.Session.Model.Nonce
import Mathlib.Data.Set.Function
import Mathlib.Logic.Function.Iterate
import Mathlib.Order.Interval.Set.Defs
/-!
# AEAD nonces do not repeat

A nonce is the little-endian writing of its value, and counting it up adds
one to that value, modulo `2 ^ 96` (`value_increment`): the four bytes that
are cut off are those that the carry alone can reach. So a nonce comes back
after `2 ^ 96` increments and not before (`nonces_distinct`).
-/

namespace NhpSba

namespace Session

open Rust

namespace NhpAeadNonce

/-- The number that a nonce writes. -/
def value (n : NhpAeadNonce) : ℕ := LittleEndian.ofBytes n.bytes.toList

/-- The nonce of a value. -/
def ofValue (v : ℕ) : NhpAeadNonce :=
  ⟨⟨LittleEndian.toBytes 12 v, LittleEndian.length_toBytes 12 v⟩⟩

variable (n : NhpAeadNonce)

theorem value_lt : n.value < 2 ^ 96 :=
  calc n.value < 256 ^ n.bytes.toList.length := LittleEndian.ofBytes_lt _
    _ = 2 ^ 96 := by rw [List.Vector.toList_length]; norm_num

variable {n} in
/-- A nonce is its bytes. -/
theorem eq_of_toList {m : NhpAeadNonce} (h : n.bytes.toList = m.bytes.toList) : n = m :=
  congrArg NhpAeadNonce.mk (List.Vector.eq _ _ h)

@[simp] theorem toList_ofValue (v : ℕ) :
    (ofValue v).bytes.toList = LittleEndian.toBytes 12 v := by
  rw [ofValue, List.Vector.toList_mk]

@[simp] theorem ofValue_value : ofValue n.value = n := by
  have hbytes := LittleEndian.toBytes_ofBytes n.bytes.toList
  rw [List.Vector.toList_length] at hbytes
  apply eq_of_toList
  rw [toList_ofValue, value, hbytes]

/-- A nonce holds the low 96 bits of its value. -/
theorem value_ofValue (v : ℕ) : (ofValue v).value = v % 2 ^ 96 := by
  have hpow : (256 : ℕ) ^ 12 = 2 ^ 96 := by norm_num
  rw [value, toList_ofValue, LittleEndian.ofBytes_toBytes_mod, hpow]

/-- The counter that is read off a nonce is its value. -/
theorem toNat_counter :
    (fromLeBytes (n.bytes.toList ++ List.replicate 4 0)).toNat = n.value := by
  have hlen : (n.bytes.toList ++ List.replicate 4 0).length = 16 := by
    rw [List.length_append, List.Vector.toList_length, List.length_replicate]
  rw [toNat_fromLeBytes hlen, LittleEndian.ofBytes_append_zeros, value]

theorem toList_increment :
    n.increment.bytes.toList =
      (toLeBytes (fromLeBytes (n.bytes.toList ++ List.replicate 4 0) + 1)).take 12 := by
  rw [increment, List.Vector.toList_mk]

/-- **Counting up adds one.** The sum fits a `u128`, so nothing wraps
before the low twelve bytes are taken. -/
theorem increment_eq : n.increment = ofValue (n.value + 1) := by
  have hlt := n.value_lt
  have hone : (1 : BitVec 128).toNat = 1 := rfl
  -- the value has 96 bits, so the carry stays within the 128
  have hsum : (fromLeBytes (n.bytes.toList ++ List.replicate 4 0) + 1).toNat = n.value + 1 := by
    rw [BitVec.toNat_add, toNat_counter, hone]
    omega
  apply eq_of_toList
  rw [toList_increment, toLeBytes, hsum, LittleEndian.take_toBytes (by omega), toList_ofValue]

theorem value_increment : n.increment.value = (n.value + 1) % 2 ^ 96 := by
  rw [increment_eq, value_ofValue]

/-- **Counting up again and again.** -/
theorem value_iterate (k : ℕ) : (increment^[k] n).value = (n.value + k) % 2 ^ 96 := by
  induction k with
  | zero => exact (Nat.mod_eq_of_lt n.value_lt).symm
  | succ k ih =>
    rw [Function.iterate_succ_apply', value_increment, ih, Nat.mod_add_mod, Nat.add_assoc]

/-- **Nonces do not repeat.** Any number of increments of a nonce gives the
nonce of its value plus that number, modulo `2 ^ 96`; so of `2 ^ 96`
nonces in a row, from any on, no two are the same. -/
theorem nonces_distinct (n : NhpAeadNonce) :
    (∀ k, increment^[k] n = ofValue ((n.value + k) % 2 ^ 96) ∧
      (increment^[k] n).value = (n.value + k) % 2 ^ 96) ∧
    Set.InjOn (fun k => increment^[k] n) (Set.Iio (2 ^ 96)) := by
  refine ⟨fun k => ⟨?_, value_iterate n k⟩, ?_⟩
  · rw [← value_iterate, ofValue_value]
  · intro i hi j hj hsame
    have hvalues : (n.value + i) % 2 ^ 96 = (n.value + j) % 2 ^ 96 := by
      rw [← value_iterate, ← value_iterate]
      exact congrArg value hsame
    rw [Set.mem_Iio] at hi hj
    omega

end NhpAeadNonce

end Session

end NhpSba
