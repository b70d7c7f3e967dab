import Mathlib.Data.Int.Log
import Mathlib.Data.Rat.Floor
import Mathlib.Tactic.Linarith
import Mathlib.Tactic.NormNum
/-!
# Sums of doubles

A double is a rational of 53 significant bits, and a sum of two is rounded
to the nearest of them, ties to even. Below 2^53 such a rounding
passes no integer (`round_le_intCast`, `intCast_le_round`), and a sum with
an integer that does not leave its binade is exact (`round_add_intCast`).
-/

namespace NhpSba

namespace Double

/-- The nearest integer, ties to even. -/
def roundEven (q : ℚ) : ℤ :=
  let below := ⌊q⌋
  let rest := q - below
  if rest < 1 / 2 ∨ (rest = 1 / 2 ∧ below % 2 = 0) then below else below + 1

/-- The distance of the doubles around a rational. -/
def ulp (q : ℚ) : ℚ := 2 ^ (Int.log 2 |q| - 52)

/-- The nearest double, in the range of the normal ones. -/
def round (q : ℚ) : ℚ := roundEven (q / ulp q) * ulp q

variable {q r : ℚ} {n : ℤ}

/-! ## Rounding to an integer -/

theorem roundEven_le (h : q ≤ n) : roundEven q ≤ n := by
  have hfloor : (⌊q⌋ : ℚ) ≤ q := Int.floor_le q
  unfold roundEven
  dsimp only
  split
  · exact_mod_cast hfloor.trans h
  · next hup =>
    -- what is rounded up is not an integer, so the floor is below `n`
    have hrest : ¬q - ⌊q⌋ < 1 / 2 := fun hlt => hup (Or.inl hlt)
    have hbelow : (⌊q⌋ : ℚ) < n := by linarith
    have : ⌊q⌋ < n := by exact_mod_cast hbelow
    omega

theorem le_roundEven (h : (n : ℚ) ≤ q) : n ≤ roundEven q := by
  have hfloor : n ≤ ⌊q⌋ := Int.le_floor.2 h
  unfold roundEven
  dsimp only
  split <;> omega

theorem roundEven_intCast (n : ℤ) : roundEven n = n :=
  le_antisymm (roundEven_le le_rfl) (le_roundEven le_rfl)

/-! ## The doubles -/

theorem ulp_pos (q : ℚ) : 0 < ulp q := zpow_pos two_pos _

/-- A multiple of its own ulp is a double. -/
theorem round_of_multiple (h : q = n * ulp q) : round q = q := by
  have hquot : q / ulp q = n := (div_eq_iff (ulp_pos q).ne').2 h
  rw [round, hquot, roundEven_intCast, ← h]

/-- A double is a multiple of its ulp. -/
theorem multiple_of_round (h : round q = q) : ∃ n : ℤ, q = n * ulp q := ⟨_, h.symm⟩

/-- Below 2^53 an ulp is a whole part of 1. -/
theorem ulp_dvd_one (h : |q| < 2 ^ 53) : ∃ k : ℕ, (k : ℚ) * ulp q = 1 := by
  have hlog : Int.log 2 |q| ≤ 52 := by
    rcases (abs_nonneg q).eq_or_lt with hzero | hpos
    · rw [← hzero, Int.log_zero_right]
      omega
    · have := (Int.lt_zpow_iff_log_lt (b := 2) (by omega) (x := 53) hpos).1 (by exact_mod_cast h)
      omega
  obtain ⟨j, hj⟩ := Int.eq_ofNat_of_zero_le (show 0 ≤ 52 - Int.log 2 |q| by omega)
  refine ⟨2 ^ j, ?_⟩
  have hexp : (j : ℤ) + (Int.log 2 |q| - 52) = 0 := by omega
  rw [ulp, Nat.cast_pow, Nat.cast_ofNat, ← zpow_natCast, ← zpow_add₀ two_ne_zero, hexp, zpow_zero]

/-- An integer is a multiple of every ulp below 2^53. -/
theorem intCast_multiple (h : |q| < 2 ^ 53) (n : ℤ) : ∃ m : ℤ, (n : ℚ) = m * ulp q := by
  obtain ⟨k, hk⟩ := ulp_dvd_one h
  refine ⟨n * k, ?_⟩
  push_cast
  rw [mul_assoc, hk, mul_one]

/-- **Rounding passes no integer**, from below. -/
theorem round_le_intCast (hq : |q| < 2 ^ 53) (h : q ≤ n) : round q ≤ n := by
  obtain ⟨m, hm⟩ := intCast_multiple hq n
  have hquot : q / ulp q ≤ m := by
    rw [div_le_iff₀ (ulp_pos q), ← hm]
    exact h
  rw [round, hm]
  have hround : (roundEven (q / ulp q) : ℚ) ≤ m := by exact_mod_cast roundEven_le hquot
  exact mul_le_mul_of_nonneg_right hround (ulp_pos q).le

/-- **Rounding passes no integer**, from above. -/
theorem intCast_le_round (hq : |q| < 2 ^ 53) (h : (n : ℚ) ≤ q) : n ≤ round q := by
  obtain ⟨m, hm⟩ := intCast_multiple hq n
  have hquot : (m : ℚ) ≤ q / ulp q := by
    rw [le_div_iff₀ (ulp_pos q), ← hm]
    exact h
  rw [round, hm]
  have hround : (m : ℚ) ≤ roundEven (q / ulp q) := by exact_mod_cast le_roundEven hquot
  exact mul_le_mul_of_nonneg_right hround (ulp_pos q).le

/-- The ulp of a number is a multiple of that of a smaller one. -/
theorem ulp_multiple (h : Int.log 2 |r| ≤ Int.log 2 |q|) : ∃ m : ℤ, ulp q = m * ulp r := by
  obtain ⟨j, hj⟩ := Int.eq_ofNat_of_zero_le (show 0 ≤ Int.log 2 |q| - Int.log 2 |r| by omega)
  refine ⟨2 ^ j, ?_⟩
  have hexp : Int.log 2 |q| - 52 = (j : ℤ) + (Int.log 2 |r| - 52) := by omega
  rw [ulp, ulp, hexp, zpow_add₀ two_ne_zero, zpow_natCast]
  push_cast
  rfl

/-- **A sum within its binade is exact**: a double and an integer, where
the sum is in no higher binade than the double. -/
theorem round_add_intCast (hq : |q| < 2 ^ 53) (hdouble : round q = q)
    (hlog : Int.log 2 |q + n| ≤ Int.log 2 |q|) : round (q + n) = q + n := by
  obtain ⟨a, ha⟩ := multiple_of_round hdouble
  obtain ⟨b, hb⟩ := intCast_multiple hq n
  obtain ⟨m, hm⟩ := ulp_multiple hlog
  have hsum : q + n = ((a + b) * m : ℤ) * ulp (q + n) := by
    calc q + n = (a + b) * ulp q := by rw [add_mul, ← ha, ← hb]
      _ = ((a + b) * m : ℤ) * ulp (q + n) := by rw [hm]; push_cast; ring
  exact round_of_multiple hsum

/-- The binade of a number between two powers of two. -/
theorem log_of_binade {e : ℕ} (hlow : 2 ^ e ≤ q) (hhigh : q < 2 ^ (e + 1)) :
    Int.log 2 |q| = e := by
  have hpos : 0 < q := (pow_pos two_pos e).trans_le hlow
  rw [abs_of_pos hpos]
  have hge : (e : ℤ) ≤ Int.log 2 q :=
    (Int.zpow_le_iff_le_log one_lt_two hpos).1 (by exact_mod_cast hlow)
  have hlt : Int.log 2 q < (e + 1 : ℕ) :=
    (Int.lt_zpow_iff_log_lt one_lt_two hpos).1 (by exact_mod_cast hhigh)
  omega

theorem round_intCast (h : |(n : ℚ)| < 2 ^ 53) : round n = n := by
  obtain ⟨m, hm⟩ := intCast_multiple h n
  exact round_of_multiple hm

/-- Before the next power of two but one ulp, a sum of whole seconds is a
tie, and goes to the even one of its neighbours. -/
example : round (2 ^ 31 - 1 / 2 ^ 22 + 60) = 2 ^ 31 + 60 := by decide +kernel

end Double

end NhpSba
