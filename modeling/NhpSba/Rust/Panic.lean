import Mathlib.Data.List.Basic
import Mathlib.Data.Nat.Notation
import Mathlib.Algebra.Order.Group.Nat
/-!
# Rust code that may panic

A sum of two `usize` panics when it does not fit the machine's word (in a
build that checks overflow), a difference when it would be negative, and
an index or a slice when it leaves its buffer. The width of a `usize` is a
parameter, so that what holds on one machine only is seen to.
-/

namespace NhpSba

namespace Rust

/-- Why a computation panicked. -/
inductive Panic
  | overflow
  | outOfBounds
  deriving DecidableEq, Repr

/-- A computation that may panic. -/
abbrev Checked (α : Type) := Except Panic α

variable {α : Type}

/-- `a + b` of two `usize`. -/
def usizeAdd (bits a b : ℕ) : Checked ℕ :=
  if a + b < 2 ^ bits then .ok (a + b) else .error .overflow

/-- `a - b` of two `usize`. -/
def usizeSub (a b : ℕ) : Checked ℕ :=
  if b ≤ a then .ok (a - b) else .error .overflow

/-- `x as usize`. -/
def asUsize (bits : ℕ) (x : UInt32) : ℕ := x.toNat % 2 ^ bits

/-- `xs[i]`. -/
def index (xs : List α) (i : ℕ) : Checked α :=
  match xs[i]? with
  | some x => .ok x
  | none => .error .outOfBounds

/-- `&xs[lo..hi]`. -/
def slice (xs : List α) (lo hi : ℕ) : Checked (List α) :=
  if lo ≤ hi ∧ hi ≤ xs.length then .ok ((xs.take hi).drop lo) else .error .outOfBounds

theorem usizeAdd_eq_ok {bits a b : ℕ} (h : a + b < 2 ^ bits) :
    usizeAdd bits a b = .ok (a + b) := if_pos h

theorem usizeSub_eq_ok {a b : ℕ} (h : b ≤ a) : usizeSub a b = .ok (a - b) := if_pos h

/-- A `u32` fits a `usize` of its width or more. -/
theorem asUsize_eq {bits : ℕ} (x : UInt32) (h : 32 ≤ bits) : asUsize bits x = x.toNat :=
  Nat.mod_eq_of_lt (Nat.lt_of_lt_of_le x.toNat_lt (Nat.pow_le_pow_right (by omega) h))

@[simp] theorem index_zero (x : α) (xs : List α) : index (x :: xs) 0 = .ok x := rfl

@[simp] theorem index_succ (x : α) (xs : List α) (i : ℕ) :
    index (x :: xs) (i + 1) = index xs i := rfl

/-- What lies after a prefix of a buffer, up to a bound within the buffer. -/
theorem slice_append (front : List α) {rest : List α} {n : ℕ} (h : n ≤ rest.length) :
    slice (front ++ rest) front.length (front.length + n) = .ok (rest.take n) := by
  have hbound : front.length ≤ front.length + n ∧
      front.length + n ≤ (front ++ rest).length := by
    rw [List.length_append]
    omega
  rw [slice, if_pos hbound, List.take_length_add_append, List.drop_left]

end Rust

end NhpSba
