import NhpSba.Knock.Interference
/-!
# Knock — when the nonce window is exact

A nonce is to be refused while it was accepted at most 300 s ago. It is
refused while it is in the table, and only accepted calls sweep the table,
each after its own nonce was looked up. What is left there is what no later
acceptance came more than 300 s after (`lookup_after_iff`). So the window
is exact where nothing stale is left under the nonce, that is where every
stale acceptance of it was followed by one that swept it (`exact_iff`).
-/

namespace NhpSba

namespace Knock

open Fallible Machine

namespace NhpJwtValidator

variable {K J : Type} (R : Runtime K J)

/-- The acceptances of a run of a new validator: nonces and times. -/
def accepted (pre : List (Arrival K)) : List (String × ℚ) := (nonceGuard R).admissions ∅ pre

/-- What an arrival meets after a run of a new validator. -/
def outcome (pre : List (Arrival K)) (k : Arrival K) : Except PyException Dict :=
  (receive R (after (receive R) ∅ pre) k).1

/-- The arrival is refused for its nonce exactly when the nonce was
accepted at most 300 s ago. -/
def ExactWindow (pre : List (Arrival K)) (k : Arrival K) : Prop :=
  outcome R pre k = .error (nonceReuse k.payload.nonce) ↔
    ∃ s, (k.payload.nonce, s) ∈ accepted R pre ∧ k.clock.nonce - s ≤ nonceExpirySeconds

/-- The table has nothing stale under the nonce of the arrival. -/
def NothingStale (pre : List (Arrival K)) (k : Arrival K) : Prop :=
  ∀ ts, (after (receive R) ∅ pre).lookup k.payload.nonce = some ts →
    k.clock.nonce - ts ≤ nonceExpirySeconds

/-- Every stale acceptance of the nonce was followed, more than 300 s after
it, by another acceptance. -/
def Swept (pre : List (Arrival K)) (k : Arrival K) : Prop :=
  ∀ s, (k.payload.nonce, s) ∈ accepted R pre → nonceExpirySeconds < k.clock.nonce - s →
    ∃ m t, (m, t) ∈ accepted R pre ∧ nonceExpirySeconds < t - s

variable {R} {pre : List (Arrival K)} {k : Arrival K} {claims : Dict}

theorem accepted_concat (pre : List (Arrival K)) (k : Arrival K) :
    accepted R (pre ++ [k]) = accepted R pre ++
      if succeeded (receive R (after (receive R) ∅ pre) k).1 then
        [(k.payload.nonce, k.clock.nonce)] else [] :=
  acceptances_concat ..

theorem le_of_accepted (htimed : (nonceGuard R).Timed (pre ++ [k])) {n : String} {t : ℚ}
    (h : (n, t) ∈ accepted R pre) : t ≤ k.clock.nonce := by
  obtain ⟨before, i, post, rfl, -, rfl, -⟩ := Guard.mem_admissions.1 h
  exact htimed.le_last (by simp)

/-- An acceptance that no other came more than 300 s after. -/
structure Kept (acceptances : List (String × ℚ)) (n : String) (ts : ℚ) : Prop where
  accepted : (n, ts) ∈ acceptances
  unswept : ∀ m t, (m, t) ∈ acceptances → t - ts ≤ nonceExpirySeconds

section Kept

variable {acceptances : List (String × ℚ)} {n m : String} {ts now : ℚ}

/-- A new acceptance sweeps what is stale of the other nonces. -/
theorem kept_concat_of_ne (hne : n ≠ m) :
    Kept (acceptances ++ [(m, now)]) n ts ↔
      Kept acceptances n ts ∧ now - ts ≤ nonceExpirySeconds := by
  constructor
  · rintro ⟨hmem, hall⟩
    have hold : (n, ts) ∈ acceptances := by
      refine (List.mem_append.1 hmem).resolve_right fun hnew => ?_
      exact hne (Prod.mk.inj (List.mem_singleton.1 hnew)).1
    have hnow := hall m now (List.mem_append_right _ (List.mem_singleton_self _))
    exact ⟨⟨hold, fun m t ht => hall m t (List.mem_append_left _ ht)⟩, hnow⟩
  · rintro ⟨⟨hmem, hall⟩, hnow⟩
    refine ⟨List.mem_append_left _ hmem, fun m t ht => ?_⟩
    rcases List.mem_append.1 ht with hold | hnew
    · exact hall m t hold
    · obtain ⟨-, rfl⟩ := Prod.mk.inj (List.mem_singleton.1 hnew)
      exact hnow

/-- And of its own nonce only it is kept, where none was before. -/
theorem kept_concat_self (hlate : ∀ m t, (m, t) ∈ acceptances → t ≤ now)
    (hgone : ∀ ts, ¬ Kept acceptances n ts) :
    Kept (acceptances ++ [(n, now)]) n ts ↔ ts = now := by
  constructor
  · rintro ⟨hmem, hall⟩
    rcases List.mem_append.1 hmem with hold | hnew
    · exact absurd ⟨hold, fun m t ht => hall m t (List.mem_append_left _ ht)⟩ (hgone ts)
    · exact (Prod.mk.inj (List.mem_singleton.1 hnew)).2
  · rintro rfl
    refine ⟨List.mem_append_right _ (List.mem_singleton_self _), fun m t ht => ?_⟩
    have hle : t ≤ ts := by
      rcases List.mem_append.1 ht with hold | hnew
      · exact hlate m t hold
      · exact le_of_eq (Prod.mk.inj (List.mem_singleton.1 hnew)).2
    have hpos : (0 : ℚ) ≤ nonceExpirySeconds := by norm_num [nonceExpirySeconds]
    linarith

end Kept

/-- **What the table holds** is what was accepted and not swept since. The
induction takes the run's last call off. -/
theorem lookup_after_iff (htimed : (nonceGuard R).Timed pre) {n : String} {ts : ℚ} :
    (after (receive R) ∅ pre).lookup n = some ts ↔ Kept (accepted R pre) n ts := by
  induction pre using List.reverseRecOn generalizing n ts with
  | nil =>
    constructor
    · intro h
      rw [after_nil, AList.lookup_empty] at h
      cases h
    · rintro ⟨h, -⟩
      cases h
  | append_singleton pre k ih =>
    rw [after_concat, lookup_receive, accepted_concat]
    by_cases hok : succeeded (receive R (after (receive R) ∅ pre) k).1 = true
    · rw [if_pos hok, if_pos hok]
      by_cases hn : n = k.payload.nonce
      · -- the nonce just accepted was not in the table before
        subst hn
        have hgone : ∀ ts, ¬ Kept (accepted R pre) k.payload.nonce ts := by
          intro ts hkept
          obtain ⟨claims, hclaims⟩ := succeeded_iff.1 hok
          have hlookup := (ih htimed.left).2 hkept
          exact (receive_eq_ok hclaims).2 (mem_iff_lookup.2 ⟨ts, hlookup⟩)
        have hlate : ∀ m t, (m, t) ∈ accepted R pre → t ≤ k.clock.nonce := fun m t ht =>
          le_of_accepted htimed ht
        rw [if_pos rfl, kept_concat_self hlate hgone, Option.some.injEq]
        exact eq_comm
      · -- an older stamp is left where the sweep spares it
        have hspared : k.clock.nonce ≤ ts + nonceExpirySeconds ↔
            k.clock.nonce - ts ≤ nonceExpirySeconds := by rw [sub_le_iff_le_add']
        rw [if_neg hn, Option.filter_eq_some_iff, ih htimed.left, kept_concat_of_ne hn,
          decide_eq_true_eq, hspared]
    · rw [if_neg hok, if_neg hok, List.append_nil]
      exact ih htimed.left

/-- What is refused is in the table. -/
theorem outcome_eq_reuse (hchecks : arrivalChecks R k = .ok claims) :
    outcome R pre k = .error (nonceReuse k.payload.nonce) ↔
      k.payload.nonce ∈ after (receive R) ∅ pre := by
  rw [outcome, receive_of_checks hchecks]
  by_cases hseen : k.payload.nonce ∈ after (receive R) ∅ pre
  · rw [if_pos hseen]
    exact iff_of_true rfl hseen
  · rw [if_neg hseen]
    exact iff_of_false (fun h => by cases h) hseen

/-- A nonce accepted at most 300 s ago is in the table, under that time. -/
theorem lookup_of_live (htimed : (nonceGuard R).Timed (pre ++ [k])) {s : ℚ}
    (hs : (k.payload.nonce, s) ∈ accepted R pre) (hlive : k.clock.nonce - s ≤ nonceExpirySeconds) :
    (after (receive R) ∅ pre).lookup k.payload.nonce = some s := by
  refine (lookup_after_iff htimed.left).2 ⟨hs, fun m t ht => ?_⟩
  have hle := le_of_accepted htimed ht
  linarith

/-- **The window is exact where nothing stale is left.** -/
theorem exactWindow_iff (htimed : (nonceGuard R).Timed (pre ++ [k]))
    (hchecks : arrivalChecks R k = .ok claims) : ExactWindow R pre k ↔ NothingStale R pre k := by
  unfold ExactWindow
  rw [outcome_eq_reuse hchecks, mem_iff_lookup]
  constructor
  · intro hexact ts hts
    -- refused, so accepted not long ago, and that is the stamp
    obtain ⟨s, hs, hlive⟩ := hexact.1 ⟨ts, hts⟩
    rw [lookup_of_live htimed hs hlive] at hts
    obtain rfl := Option.some.inj hts
    exact hlive
  · intro hfresh
    constructor
    · rintro ⟨ts, hts⟩
      exact ⟨ts, ((lookup_after_iff htimed.left).1 hts).1, hfresh ts hts⟩
    · rintro ⟨s, hs, hlive⟩
      exact ⟨s, lookup_of_live htimed hs hlive⟩

/-- Nothing stale is left under a nonce exactly when every stale
acceptance of it was swept. -/
theorem nothingStale_iff (htimed : (nonceGuard R).Timed pre) :
    NothingStale R pre k ↔ Swept R pre k := by
  constructor
  · intro hfresh s hs hstale
    by_contra hkept
    push Not at hkept
    exact absurd (hfresh s ((lookup_after_iff htimed).2 ⟨hs, hkept⟩)) (not_le.2 hstale)
  · intro hswept ts hts
    obtain ⟨hmem, hkept⟩ := (lookup_after_iff htimed).1 hts
    by_contra hstale
    obtain ⟨m, t, ht, hlt⟩ := hswept ts hmem (not_le.1 hstale)
    exact absurd (hkept m t ht) (not_le.2 hlt)

/-- **When the nonce window is exact.** For an arrival that passes the
earlier checks, after any run of a new validator whose clock does not go
back: it is refused for its nonce exactly when that was accepted at most
300 s ago, if and only if every older acceptance of the nonce was swept by
another more than 300 s after it. And where that is so of two runs with the
same acceptances of the nonce, they end the same. -/
theorem exact_iff (R : Runtime K J) (htimed : (nonceGuard R).Timed (pre ++ [k]))
    (hchecks : arrivalChecks R k = .ok claims) :
    (ExactWindow R pre k ↔ Swept R pre k) ∧ (Swept R pre k ↔ NothingStale R pre k) ∧
      ∀ pre', (nonceGuard R).Timed (pre' ++ [k]) →
        (∀ s, (k.payload.nonce, s) ∈ accepted R pre ↔ (k.payload.nonce, s) ∈ accepted R pre') →
          Swept R pre k → Swept R pre' k → outcome R pre k = outcome R pre' k := by
  have hswept := nothingStale_iff (k := k) htimed.left
  refine ⟨(exactWindow_iff htimed hchecks).trans hswept, hswept.symm, ?_⟩
  intro pre' htimed' hsame h h'
  have hexact := (exactWindow_iff htimed hchecks).2 (hswept.2 h)
  have hexact' := (exactWindow_iff htimed' hchecks).2 ((nothingStale_iff htimed'.left).2 h')
  unfold ExactWindow at hexact hexact'
  -- both verdicts ask the same of the same acceptances
  have hrefused : k.payload.nonce ∈ after (receive R) ∅ pre ↔
      k.payload.nonce ∈ after (receive R) ∅ pre' := by
    rw [← outcome_eq_reuse hchecks, ← outcome_eq_reuse hchecks, hexact, hexact']
    simp only [hsame]
  rw [outcome, outcome, receive_of_checks hchecks, receive_of_checks hchecks]
  by_cases hseen : k.payload.nonce ∈ after (receive R) ∅ pre
  · rw [if_pos hseen, if_pos (hrefused.1 hseen)]
  · rw [if_neg hseen, if_neg fun h => hseen (hrefused.2 h)]

section TwoNodes

/-- The clock goes forward from B's first knock to A's second and B's. -/
theorem timed_between : (nonceGuard packagesOfTwo).Timed ([b₁, a₂] ++ [b₂]) := by
  simp only [Guard.Timed, nonceGuard, b₁, a₂, b₂, sampleArrival, List.cons_append, List.nil_append]
  norm_num

theorem accepted_between : accepted packagesOfTwo [b₁, a₂] =
    [(b₁.payload.nonce, 1700000002), (a₂.payload.nonce, 1700000311)] := by
  unfold accepted Guard.admissions
  simp only [nonceGuard, trace_cons, trace_nil, receive_of_checks checks_b₁,
    receive_of_checks checks_a₂]
  decide +kernel

/-- The window is exact for B's second knock, 310 s after its first, which
A's knock swept. -/
theorem exact_iff_swept : ExactWindow packagesOfTwo [b₁, a₂] b₂ := by
  refine (exact_iff packagesOfTwo timed_between checks_b₂).1.2 ?_
  intro s hs hstale
  rw [accepted_between] at hs ⊢
  rcases List.mem_cons.1 hs with hfirst | hsecond
  · obtain ⟨-, rfl⟩ := Prod.mk.inj hfirst
    refine ⟨a₂.payload.nonce, 1700000311, List.mem_cons_of_mem _ (List.mem_singleton_self _), ?_⟩
    norm_num [nonceExpirySeconds]
  · -- the other acceptance is of A's nonce
    have hnonce := (Prod.mk.inj (List.mem_singleton.1 hsecond)).1
    exact absurd hnonce.symm nonce_a₂_ne_b₂

theorem accepted_first :
    accepted packagesOfTwo [b₁] = [(b₁.payload.nonce, 1700000002)] := by
  unfold accepted Guard.admissions
  simp only [nonceGuard, trace_cons, trace_nil, receive_of_checks checks_b₁]
  decide +kernel

/-- **Where nothing sweeps it the window is not exact**: B's nonce is
refused 310 s after it was accepted. -/
theorem not_exact : ¬ ∀ (pre : List (Arrival Bytes)) (k : Arrival Bytes) (claims : Dict),
    (nonceGuard packagesOfTwo).Timed (pre ++ [k]) → arrivalChecks packagesOfTwo k = .ok claims →
      ExactWindow packagesOfTwo pre k := by
  intro hevery
  have htimed : (nonceGuard packagesOfTwo).Timed ([b₁] ++ [b₂]) := by
    simp only [Guard.Timed, nonceGuard, b₁, b₂, sampleArrival, List.cons_append, List.nil_append]
    norm_num
  have hexact : ExactWindow packagesOfTwo [b₁] b₂ := hevery [b₁] b₂ _ htimed checks_b₂
  have hstale : (after (receive packagesOfTwo) ∅ [b₁]).lookup b₂.payload.nonce =
      some 1700000002 := by
    refine (lookup_after_iff htimed.left).2 ⟨?_, fun m t ht => ?_⟩
    · rw [accepted_first]
      exact List.mem_singleton_self _
    · rw [accepted_first] at ht
      obtain ⟨-, rfl⟩ := Prod.mk.inj (List.mem_singleton.1 ht)
      norm_num [nonceExpirySeconds]
  -- 310 s lie between the two knocks
  have hfresh := (exactWindow_iff htimed checks_b₂).1 hexact _ hstale
  norm_num [b₂, sampleArrival, nonceExpirySeconds] at hfresh

end TwoNodes

end NhpJwtValidator

end Knock

end NhpSba
