import NhpSba.Common.Guard
import NhpSba.Ingress.Model.Replay
/-!
# Ingress — what the replay protection cache remembers

The cache is a sliding window as long as it clears nothing live: it forgets
by clearing the whole set, once it is full and once an expiry has passed
since it last did, however recent the nonces in it are
(`windowed_of_clearsNothingLive`).
-/

namespace NhpSba

namespace Ingress

open Machine

namespace ReplayProtectionCache

/-- The cache as a replay guard. -/
def cacheGuard : Guard ReplayProtectionCache Presented Bool String ℕ where
  step := checkAndAdd
  key := Presented.nonce
  time := Presented.now
  admitted := id
  holds cache n := n ∈ cache.seen

/-- A call clears the set: an expiry has passed since the last cleanup, or
a nonce that is not in the set finds it full. -/
def Clears (cache : ReplayProtectionCache) (call : Presented) : Prop :=
  cache.expiry < call.now - cache.lastCleanup ∨
    call.nonce ∉ cache.seen ∧ cache.maxEntries ≤ cache.seen.card

instance (cache : ReplayProtectionCache) (call : Presented) : Decidable (cache.Clears call) :=
  inferInstanceAs (Decidable (_ ∨ _))

variable {cache : ReplayProtectionCache} {call : Presented}

/-! ## One call -/

/-- **A call that clears the set** admits its nonce and holds nothing else. -/
theorem checkAndAdd_of_clears (h : cache.Clears call) :
    (cache.checkAndAdd call).1 = true ∧ (cache.checkAndAdd call).2.seen = {call.nonce} ∧
      ¬ (cache.checkAndAdd call).2.expiry < call.now - (cache.checkAndAdd call).2.lastCleanup := by
  unfold checkAndAdd maybeCleanup
  by_cases hold : cache.expiry < call.now - cache.lastCleanup
  · simp [hold]
  · obtain ⟨hnew, hfull⟩ := h.resolve_left hold
    simp [hold, hnew, hfull]

/-- A call that clears nothing admits its nonce exactly when it is new, and
holds it beside the others. -/
theorem checkAndAdd_of_not_clears (h : ¬ cache.Clears call) :
    ((cache.checkAndAdd call).1 = true ↔ call.nonce ∉ cache.seen) ∧
      (cache.checkAndAdd call).2.seen = insert call.nonce cache.seen ∧
      ¬ (cache.checkAndAdd call).2.expiry < call.now - (cache.checkAndAdd call).2.lastCleanup := by
  have hold : ¬ cache.expiry < call.now - cache.lastCleanup := fun hold => h (Or.inl hold)
  unfold checkAndAdd maybeCleanup
  by_cases hnew : call.nonce ∈ cache.seen
  · simp [hold, hnew]
  · have hfull : ¬ cache.maxEntries ≤ cache.seen.card := fun hfull => h (Or.inr ⟨hnew, hfull⟩)
    simp [hold, hnew, hfull]

/-- A call remembers its nonce. -/
theorem nonce_mem_checkAndAdd (cache : ReplayProtectionCache) (call : Presented) :
    call.nonce ∈ (cache.checkAndAdd call).2.seen := by
  by_cases h : cache.Clears call
  · rw [(checkAndAdd_of_clears h).2.1]
    exact Finset.mem_singleton_self _
  · rw [(checkAndAdd_of_not_clears h).2.1]
    exact Finset.mem_insert_self ..

theorem checkAndAdd_eq_true :
    (cache.checkAndAdd call).1 = true ↔ call.nonce ∉ (cache.maybeCleanup call.now).seen := by
  unfold checkAndAdd
  by_cases h : call.nonce ∈ (cache.maybeCleanup call.now).seen
  · simp [h]
  · simp [h]

/-- A call at the instant of the one before it cleans nothing up, so it
admits its nonce exactly when the one before left it out. -/
theorem checkAndAdd_again (cache : ReplayProtectionCache) (call : Presented) (n : String) :
    ((cache.checkAndAdd call).2.checkAndAdd ⟨n, call.now⟩).1 = true ↔
      n ∉ (cache.checkAndAdd call).2.seen := by
  have hrecent : ¬ (cache.checkAndAdd call).2.expiry <
      call.now - (cache.checkAndAdd call).2.lastCleanup := by
    by_cases h : cache.Clears call
    · exact (checkAndAdd_of_clears h).2.2
    · exact (checkAndAdd_of_not_clears h).2.2
  rw [checkAndAdd_eq_true, maybeCleanup, if_neg hrecent]

/-! ## A run -/

/-- No call of a run clears a nonce admitted at most a window before it. -/
def ClearsNothingLive (w : ℕ) (cache : ReplayProtectionCache) (calls : List Presented) : Prop :=
  ∀ pre call post, calls = pre ++ call :: post → (after checkAndAdd cache pre).Clears call →
    ∀ n ∈ (after checkAndAdd cache pre).seen,
      ¬ Guard.Live w (cacheGuard.admissions cache pre) call.now n

theorem cacheGuard_remembers : cacheGuard.Remembers := fun cache call _ =>
  nonce_mem_checkAndAdd cache call

/-- A call that clears nothing live keeps what is live. -/
theorem runKeepsLive {w : ℕ} {calls : List Presented} (h : ClearsNothingLive w cache calls) :
    cacheGuard.RunKeepsLive w cache calls := by
  rintro pre call post rfl n hlive hheld
  change n ∈ (after checkAndAdd cache pre).seen at hheld
  have hkeep : ¬ (after checkAndAdd cache pre).Clears call :=
    fun hclears => h pre call post rfl hclears n hheld hlive
  obtain ⟨hadmits, hseen, -⟩ := checkAndAdd_of_not_clears hkeep
  refine ⟨?_, fun hkey => ?_⟩
  · change n ∈ ((after checkAndAdd cache pre).checkAndAdd call).2.seen
    rw [hseen]
    exact Finset.mem_insert_of_mem hheld
  · change call.nonce = n at hkey
    change ((after checkAndAdd cache pre).checkAndAdd call).1 = false
    rw [Bool.eq_false_iff, ne_eq, hadmits, hkey]
    exact not_not.2 hheld

/-- Where a call clears a live nonce, presenting that nonce at the same
instant has it admitted within the window. -/
theorem not_windowed_of_clears {w : ℕ} {pre : List Presented} {n : String}
    (hclears : (after checkAndAdd cache pre).Clears call)
    (hlive : Guard.Live w (cacheGuard.admissions cache pre) call.now n) :
    ¬ cacheGuard.Windowed w cache (pre ++ [call] ++ [⟨n, call.now⟩]) := by
  obtain ⟨t, ht, hle⟩ := hlive
  obtain ⟨hadm, hseen, -⟩ := checkAndAdd_of_clears hclears
  intro hwindow
  by_cases hn : n = call.nonce
  · -- the clearing call itself admits it
    subst hn
    have hpre : cacheGuard.Windowed w cache (pre ++ [call]) := hwindow.left
    exact absurd (hpre.lt_last hadm ht) (not_lt.2 hle)
  · have hagain : cacheGuard.admitted (cacheGuard.step (after cacheGuard.step cache
        (pre ++ [call])) ⟨n, call.now⟩).1 = true := by
      rw [after_concat]
      refine (checkAndAdd_again _ call n).2 ?_
      change n ∉ ((after checkAndAdd cache pre).checkAndAdd call).2.seen
      rw [hseen]
      exact fun hmem => hn (Finset.mem_singleton.1 hmem)
    exact absurd (hwindow.lt_last hagain (Guard.admissions_append_subset ht)) (not_lt.2 hle)

/-- **When the cache is a sliding window**: on every run in which no call
clears a live nonce; and where one does, presenting a nonce at once shows
that it is not. -/
theorem windowed_of_clearsNothingLive (maxEntries : ℕ) (expirySecs : UInt64) (created : ℕ)
    (calls : List Presented) (htimed : cacheGuard.Timed calls) :
    (ClearsNothingLive (fromSecs expirySecs) (new maxEntries expirySecs created) calls →
      cacheGuard.Windowed (fromSecs expirySecs) (new maxEntries expirySecs created) calls) ∧
    (¬ ClearsNothingLive (fromSecs expirySecs) (new maxEntries expirySecs created) calls →
      ∃ pre call post n, calls = pre ++ call :: post ∧
        ¬ cacheGuard.Windowed (fromSecs expirySecs) (new maxEntries expirySecs created)
          (pre ++ [call] ++ [⟨n, call.now⟩])) := by
  refine ⟨fun h => Guard.windowed_of_keepsLive cacheGuard_remembers (runKeepsLive h) htimed,
    fun h => ?_⟩
  unfold ClearsNothingLive at h
  push Not at h
  obtain ⟨pre, call, post, hsplit, hclears, n, -, hlive⟩ := h
  exact ⟨pre, call, post, n, hsplit, not_windowed_of_clears hclears hlive⟩

/-- A nonce presented again a second later, to a cache with room. -/
theorem windowed_with_room :
    cacheGuard.Windowed (fromSecs 300) (new 1000 300 0) [⟨"a", 0⟩, ⟨"a", 10 ^ 9⟩] := by
  refine (windowed_of_clearsNothingLive 1000 300 0 _ ?_).1 ?_
  · simp [Guard.Timed, cacheGuard]
  · intro pre call post hsplit hclears
    rcases pre with _ | ⟨first, _ | ⟨second, pre⟩⟩
    · obtain ⟨rfl, rfl⟩ := List.cons.inj hsplit
      exact absurd hclears (by decide +kernel)
    · obtain ⟨rfl, hrest⟩ := List.cons.inj hsplit
      obtain ⟨rfl, -⟩ := List.cons.inj hrest
      exact absurd hclears (by decide +kernel)
    · have hlen := congrArg List.length hsplit
      simp at hlen

/-- **The cache forgets at once what it should remember for 300 s**: when a
second nonce finds it full, and when the first call after an expiry comes. -/
theorem not_windowed :
    ¬ cacheGuard.Windowed (fromSecs 300) (new 1 300 0) [⟨"a", 0⟩, ⟨"b", 0⟩, ⟨"a", 0⟩] ∧
      ¬ cacheGuard.Windowed (fromSecs 300) (new 1000 300 0)
        [⟨"a", 299 * 10 ^ 9⟩, ⟨"a", 301 * 10 ^ 9⟩] := by
  refine ⟨fun h => ?_, fun h => ?_⟩
  · have hrun : cacheGuard.Windowed (fromSecs 300) (new 1 300 0)
        ([⟨"a", 0⟩, ⟨"b", 0⟩] ++ [⟨"a", 0⟩]) := h
    have hlt := hrun.lt_last (t := 0) (by decide +kernel) (by decide +kernel)
    exact absurd hlt (by decide +kernel)
  · have hrun : cacheGuard.Windowed (fromSecs 300) (new 1000 300 0)
        ([⟨"a", 299 * 10 ^ 9⟩] ++ [⟨"a", 301 * 10 ^ 9⟩]) := h
    have hlt := hrun.lt_last (t := 299 * 10 ^ 9) (by decide +kernel) (by decide +kernel)
    exact absurd hlt (by decide +kernel)

end ReplayProtectionCache

end Ingress

end NhpSba
