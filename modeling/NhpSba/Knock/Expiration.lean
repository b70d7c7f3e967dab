import NhpSba.Knock.Validator
import NhpSba.Knock.Sample
/-!
# Knock — the expiration window

`_validate_expiration` refuses an `exp` below one bound and refuses one
above another, so it accepts whatever is neither: every number within its
window, and NaN, which `json.loads` makes of the literal `NaN`. The bounds
are sums of floats. They are within a second of the exact ones, on the same
side of every integer, and exact at a reading whose binade the window does
not leave.
-/

namespace NhpSba

namespace Knock

namespace NhpJwtValidator

variable {K J : Type} {R : Runtime K J}

/-- The number the `exp` claim is, if it is one. -/
def expClaim (claims : Dict) : Option PyFloat := (claims.get "exp").number?

/-! ## The bounds -/

section Bounds

variable {now seconds : ℚ} {n : ℤ}

/-- Adding seconds passes no integer, from below. -/
theorem addSeconds_le_intCast (h : now + seconds ≤ n) : addSeconds now seconds ≤ n := by
  unfold addSeconds
  split
  · next hlt => exact Double.round_le_intCast hlt h
  · exact h

/-- Adding seconds passes no integer, from above. -/
theorem intCast_le_addSeconds (h : (n : ℚ) ≤ now + seconds) : n ≤ addSeconds now seconds := by
  unfold addSeconds
  split
  · next hlt => exact Double.intCast_le_round hlt h
  · exact h

/-- So the sum is off by less than a second. -/
theorem addSeconds_near (now seconds : ℚ) :
    now + seconds - 1 < addSeconds now seconds ∧ addSeconds now seconds < now + seconds + 1 := by
  have hlow := intCast_le_addSeconds (Int.floor_le (now + seconds))
  have hhigh := addSeconds_le_intCast (Int.le_ceil (now + seconds))
  have hfloor := Int.lt_floor_add_one (now + seconds)
  have hceil := Int.ceil_lt_add_one (now + seconds)
  constructor <;> linarith

theorem minAllowedExp_near (now : ℚ) :
    now - 6 < minAllowedExp now ∧ minAllowedExp now < now - 4 := by
  obtain ⟨hlow, hhigh⟩ := addSeconds_near now (-maxClockSkewSeconds)
  simp only [maxClockSkewSeconds] at hlow hhigh
  unfold minAllowedExp
  simp only [maxClockSkewSeconds]
  constructor <;> linarith

theorem maxAllowedExp_near (now : ℚ) :
    now + 63 < maxAllowedExp now ∧ maxAllowedExp now < now + 67 := by
  obtain ⟨hlow, hhigh⟩ := addSeconds_near now strictExpBoundSeconds
  obtain ⟨hlow', hhigh'⟩ := addSeconds_near (addSeconds now strictExpBoundSeconds)
    maxClockSkewSeconds
  unfold maxAllowedExp
  simp only [strictExpBoundSeconds, maxClockSkewSeconds] at hlow hhigh hlow' hhigh' ⊢
  constructor <;> linarith

/-- The double bounds let an integer through that the exact ones do. -/
theorem minAllowedExp_le_intCast (h : now - 5 ≤ n) : minAllowedExp now ≤ n :=
  addSeconds_le_intCast (by rw [maxClockSkewSeconds]; linarith)

theorem intCast_le_maxAllowedExp (h : (n : ℚ) ≤ now + 65) : n ≤ maxAllowedExp now := by
  have hfirst : ((n - 5 : ℤ) : ℚ) ≤ addSeconds now strictExpBoundSeconds := by
    apply intCast_le_addSeconds
    rw [strictExpBoundSeconds]
    push_cast
    linarith
  apply intCast_le_addSeconds
  rw [maxClockSkewSeconds]
  push_cast at hfirst
  linarith

end Bounds

/-! ## What passes -/

theorem validateExpiration_eq_ok {claims : Dict} {now : ℚ} :
    validateExpiration R claims now = .ok () ↔
      ∃ exp, expClaim claims = some exp ∧
        exp.lt (.finite (minAllowedExp now)) = false ∧
        (PyFloat.finite (maxAllowedExp now)).lt exp = false := by
  unfold validateExpiration expClaim
  cases (claims.get "exp").number? with
  | none => simp
  | some exp =>
    simp only [Option.some.injEq, exists_eq_left']
    by_cases hlow : exp.lt (.finite (minAllowedExp now)) = true
    · simp [hlow]
    · rw [if_neg hlow]
      by_cases hhigh : (PyFloat.finite (maxAllowedExp now)).lt exp = true
      · simp [hhigh]
      · simp [hhigh, hlow]

/-- A finite `exp` passes exactly within its window. -/
theorem validateExpiration_finite {claims : Dict} {now exp : ℚ}
    (h : expClaim claims = some (.finite exp)) :
    validateExpiration R claims now = .ok () ↔
      minAllowedExp now ≤ exp ∧ exp ≤ maxAllowedExp now := by
  rw [validateExpiration_eq_ok]
  simp [h]

/-- NaN passes at every reading: neither comparison holds of it. -/
theorem validateExpiration_nan {claims : Dict} (h : expClaim claims = some .nan) (now : ℚ) :
    validateExpiration R claims now = .ok () :=
  validateExpiration_eq_ok.2 ⟨.nan, h, by simp, by simp⟩

/-- An `exp` that passes is finite or NaN: an infinite one fails one
comparison or the other. -/
theorem expClaim_of_ok {claims : Dict} {now : ℚ} (h : validateExpiration R claims now = .ok ()) :
    expClaim claims = some .nan ∨ ∃ exp, expClaim claims = some (.finite exp) := by
  obtain ⟨exp, hexp, hlow, hhigh⟩ := validateExpiration_eq_ok.1 h
  cases exp with
  | finite q => exact Or.inr ⟨q, hexp⟩
  | posInf => simp at hhigh
  | negInf => simp at hlow
  | nan => exact Or.inl hexp

theorem expClaim_eq_nan {claims : Dict} :
    expClaim claims = some .nan ↔ claims.get "exp" = .float .nan := by
  unfold expClaim
  cases claims.get "exp" <;> simp [PyValue.number?]

/-! ## At the readings of a clock -/

/-- A reading of `time.time()`: a double, not before the epoch, and as many
nanoseconds as 64 bits count. -/
structure Reading where
  seconds : ℚ
  nonneg : 0 ≤ seconds
  lt : seconds < 2 ^ 34
  double : Double.round seconds = seconds

theorem Reading.abs_seconds_lt (now : Reading) : |now.seconds| < 2 ^ 53 := by
  rw [abs_of_nonneg now.nonneg]
  exact now.lt.trans (by norm_num)

/-- What the checks add to a reading keeps it below 2^53. -/
theorem Reading.abs_add_lt (now : Reading) {seconds : ℚ} (hlow : -65 ≤ seconds)
    (hhigh : seconds ≤ 65) : |now.seconds + seconds| < 2 ^ 53 := by
  have hnonneg := now.nonneg
  have hlt := now.lt
  norm_num at hlt ⊢
  rw [abs_lt]
  constructor <;> linarith

/-- The lower bound is exact once five seconds have gone by. -/
theorem Reading.minAllowedExp_eq (now : Reading) (h : 5 < now.seconds) :
    minAllowedExp now.seconds = now.seconds - 5 := by
  have hlog : Int.log 2 |now.seconds + (-5 : ℤ)| ≤ Int.log 2 |now.seconds| := by
    rw [abs_of_nonneg now.nonneg, abs_of_pos (by push_cast; linarith)]
    exact Int.log_mono_right (by push_cast; linarith) (by push_cast; linarith)
  have hsum := Double.round_add_intCast now.abs_seconds_lt now.double hlog
  push_cast at hsum
  rw [minAllowedExp, addSeconds, maxClockSkewSeconds,
    if_pos (now.abs_add_lt (by norm_num) (by norm_num)), hsum, sub_eq_add_neg]

/-- The upper bound is exact where the window ends in the binade of the
reading. -/
theorem Reading.maxAllowedExp_eq (now : Reading) {e : ℕ} (hlow : 2 ^ e ≤ now.seconds)
    (hhigh : now.seconds + 65 < 2 ^ (e + 1)) : maxAllowedExp now.seconds = now.seconds + 65 := by
  have hlog : ∀ seconds : ℚ, 0 ≤ seconds → seconds ≤ 65 →
      Int.log 2 |now.seconds + seconds| = e := fun seconds hfrom hto =>
    Double.log_of_binade (by linarith) (by linarith)
  have hzero := hlog 0 le_rfl (by norm_num)
  rw [add_zero] at hzero
  -- both sums stay in that binade
  have hsixty : Double.round (now.seconds + (60 : ℤ)) = now.seconds + (60 : ℤ) := by
    refine Double.round_add_intCast now.abs_seconds_lt now.double ?_
    rw [hzero]
    exact (hlog _ (by norm_num) (by norm_num)).le
  have hfive : Double.round (now.seconds + (60 : ℤ) + (5 : ℤ)) =
      now.seconds + (60 : ℤ) + (5 : ℤ) := by
    refine Double.round_add_intCast (now.abs_add_lt (by norm_num) (by norm_num)) hsixty ?_
    rw [hlog _ (by norm_num) (by norm_num), add_assoc]
    exact (hlog _ (by norm_num) (by norm_num)).le
  push_cast at hsixty hfive
  have hfirst : addSeconds now.seconds strictExpBoundSeconds = now.seconds + 60 := by
    rw [addSeconds, strictExpBoundSeconds, if_pos (now.abs_add_lt (by norm_num) (by norm_num)),
      hsixty]
  rw [maxAllowedExp, hfirst, addSeconds, maxClockSkewSeconds, add_assoc,
    if_pos (now.abs_add_lt (by norm_num) (by norm_num)), ← add_assoc, hfive, add_assoc]
  norm_num

/-- The law of the expiration window: a token that passes has a numeric
`exp` at most 5 s in the past and 65 s ahead, and passes no more once 70 s
have gone by. -/
def ExpiryBounded (R : Runtime K J) (claims : Dict) (now : Reading) : Prop :=
  validateExpiration R claims now.seconds = .ok () →
    (∃ exp, expClaim claims = some (.finite exp) ∧
      now.seconds - 5 ≤ exp ∧ exp ≤ now.seconds + 65) ∧
    ∀ later : Reading, now.seconds + 70 < later.seconds →
      validateExpiration R claims later.seconds ≠ .ok ()

/-- A number between a bound of the window and the float that stands for
the bound, on the wrong side of it. -/
def InGap (now exp : ℚ) : Prop :=
  minAllowedExp now ≤ exp ∧ exp < now - 5 ∨ now + 65 < exp ∧ exp ≤ maxAllowedExp now

/-- In the last 65 s of the 31 bits of a Unix time there is one. -/
example : InGap (2 ^ 31 - 1 / 2 ^ 22) 2147483713 := Or.inr (by decide +kernel)

/-- A number in a gap passes. -/
theorem passes_of_inGap {claims : Dict} {now exp : ℚ} (hexp : expClaim claims = some (.finite exp))
    (h : InGap now exp) : validateExpiration R claims now = .ok () := by
  obtain ⟨-, hmin⟩ := minAllowedExp_near now
  obtain ⟨hmax, -⟩ := maxAllowedExp_near now
  refine (validateExpiration_finite hexp).2 ?_
  obtain ⟨hlow, hhigh⟩ | ⟨hlow, hhigh⟩ := h
  · exact ⟨hlow, by linarith⟩
  · exact ⟨by linarith, hhigh⟩

/-- What passes outside the gaps is within the exact window. -/
theorem window_of_not_inGap {claims : Dict} {now exp : ℚ}
    (hexp : expClaim claims = some (.finite exp)) (hgap : ¬InGap now exp)
    (h : validateExpiration R claims now = .ok ()) : now - 5 ≤ exp ∧ exp ≤ now + 65 := by
  obtain ⟨hlow, hhigh⟩ := (validateExpiration_finite hexp).1 h
  constructor
  · by_contra hout
    exact hgap (Or.inl ⟨hlow, not_le.1 hout⟩)
  · by_contra hout
    exact hgap (Or.inr ⟨not_le.1 hout, hhigh⟩)

/-- A window that ends in the binade of its reading has no gap. -/
theorem not_inGap (now : Reading) {e : ℕ} (hlow : 2 ^ e ≤ now.seconds)
    (hhigh : now.seconds + 65 < 2 ^ (e + 1)) (exp : ℚ) : ¬InGap now.seconds exp := by
  -- a binade as wide as the window begins past it
  have hwide : 5 < now.seconds := by
    rw [pow_succ] at hhigh
    linarith
  rw [InGap, now.minAllowedExp_eq hwide, now.maxAllowedExp_eq hlow hhigh, not_or, not_and, not_lt,
    not_and, not_le]
  exact ⟨id, id⟩

/-- A reading of whole seconds. -/
def wholeSeconds (n : ℕ) (h : n < 2 ^ 34) : Reading where
  seconds := n
  nonneg := n.cast_nonneg
  lt := by exact_mod_cast h
  double := by
    have hlt : |((n : ℤ) : ℚ)| < 2 ^ 53 := by
      rw [Int.cast_natCast, Nat.abs_cast]
      exact_mod_cast h.trans (by norm_num)
    exact_mod_cast Double.round_intCast hlt

/-- A reading of November 2023. -/
def november : Reading := wholeSeconds 1700000000 (by decide)

/-- **The window holds of exactly the tokens whose `exp` is not NaN** and
in no gap; and there is no gap but at the end of a binade. -/
theorem expiryBounded_iff (R : Runtime K J) (claims : Dict) (now : Reading) :
    (ExpiryBounded R claims now ↔ claims.get "exp" ≠ .float .nan ∧
      ∀ exp, expClaim claims = some (.finite exp) → ¬InGap now.seconds exp) ∧
    ∀ e : ℕ, 2 ^ e ≤ now.seconds → now.seconds + 65 < 2 ^ (e + 1) →
      ∀ exp, ¬InGap now.seconds exp := by
  refine ⟨?_, fun e hlow hhigh => not_inGap now hlow hhigh⟩
  rw [ne_eq, ← expClaim_eq_nan]
  constructor
  · intro h
    refine ⟨fun hnan => ?_, fun exp hexp hgap => ?_⟩
    · obtain ⟨⟨exp, hexp, -⟩, -⟩ := h (validateExpiration_nan hnan now.seconds)
      rw [hnan] at hexp
      cases hexp
    · obtain ⟨⟨exp', hexp', hlow, hhigh⟩, -⟩ := h (passes_of_inGap hexp hgap)
      obtain rfl : exp = exp' := PyFloat.finite.inj (Option.some.inj (hexp.symm.trans hexp'))
      obtain ⟨-, hout⟩ | ⟨hout, -⟩ := hgap
      · exact absurd hout (not_lt.2 hlow)
      · exact absurd hout (not_lt.2 hhigh)
  · rintro ⟨hnan, hgap⟩ hpass
    obtain hbad | ⟨exp, hexp⟩ := expClaim_of_ok hpass
    · exact absurd hbad hnan
    · obtain ⟨hlow, hhigh⟩ := window_of_not_inGap hexp (hgap exp hexp) hpass
      refine ⟨⟨exp, hexp, hlow, hhigh⟩, fun later hlater hpass' => ?_⟩
      -- a reading past the first minute has an exact lower bound
      have hnonneg := now.nonneg
      have hlow' := ((validateExpiration_finite hexp).1 hpass').1
      rw [later.minAllowedExp_eq (by linarith)] at hlow'
      linarith

/-- Of a token that lives for a minute. -/
theorem expiryBounded_iff_minute :
    ExpiryBounded (Sample.runtime []) [("exp", .int 1700000060)] november := by
  obtain ⟨hiff, hgap⟩ := expiryBounded_iff (Sample.runtime []) [("exp", .int 1700000060)] november
  have hint : Dict.get [("exp", .int 1700000060)] "exp" ≠ .float .nan := by
    intro hnan
    cases hnan
  refine hiff.2 ⟨hint, fun exp _ => ?_⟩
  exact hgap 30 (by norm_num [november, wholeSeconds]) (by norm_num [november, wholeSeconds]) exp

/-- A token that says `"exp": NaN` passes now and ever after. -/
theorem nan_expiry_unbounded :
    ¬ ExpiryBounded (Sample.runtime []) [("exp", .float .nan)] november := by
  intro h
  have hnan : expClaim [("exp", .float .nan)] = some .nan := rfl
  exact (h (validateExpiration_nan hnan _)).2 (wholeSeconds 1800000000 (by decide))
    (by norm_num [november, wholeSeconds]) (validateExpiration_nan hnan _)

end NhpJwtValidator

end Knock

end NhpSba
