import NhpSba.Ingress.Replay
import Mathlib.Data.Fintype.EquivFin
import Mathlib.Order.Bounds.Defs
/-!
# Ingress — what it costs to have a nonce admitted again

The cache forgets more than it should, but not for nothing: beside the
first time, a nonce is admitted again at most once for each expiry that
passes, and once for each `maxEntries - 1` other nonces that are admitted
(`Paid`). Whoever has the time and the nonces for it can have it admitted
that often (`timesAdmitted_isGreatest`).
-/

namespace NhpSba

namespace Ingress

open Machine

namespace ReplayProtectionCache

variable {cache : ReplayProtectionCache} {call : Presented} {n : String}

/-! ## What a call does -/

/-- A call after an expiry starts anew. -/
theorem checkAndAdd_expired (h : cache.expiry < call.now - cache.lastCleanup) :
    cache.checkAndAdd call =
      (true, { cache with seen := {call.nonce}, lastCleanup := call.now }) := by
  simp [checkAndAdd, maybeCleanup, h]

/-- Otherwise a nonce that is held is refused, -/
theorem checkAndAdd_known (h : ¬ cache.expiry < call.now - cache.lastCleanup)
    (hknown : call.nonce ∈ cache.seen) : cache.checkAndAdd call = (false, cache) := by
  simp [checkAndAdd, maybeCleanup, h, hknown]

/-- a new one that finds the set full is held alone, -/
theorem checkAndAdd_full (h : ¬ cache.expiry < call.now - cache.lastCleanup)
    (hnew : call.nonce ∉ cache.seen) (hfull : cache.maxEntries ≤ cache.seen.card) :
    cache.checkAndAdd call = (true, { cache with seen := {call.nonce} }) := by
  simp [checkAndAdd, maybeCleanup, h, hnew, hfull]

/-- and one that finds room is held beside the others. -/
theorem checkAndAdd_room (h : ¬ cache.expiry < call.now - cache.lastCleanup)
    (hnew : call.nonce ∉ cache.seen) (hroom : cache.seen.card < cache.maxEntries) :
    cache.checkAndAdd call = (true, { cache with seen := insert call.nonce cache.seen }) := by
  simp [checkAndAdd, maybeCleanup, h, hnew, not_le.2 hroom]

/-! ## What is paid -/

/-- How often a nonce was admitted. -/
def own (n : String) (hist : List (String × ℕ)) : ℕ := hist.countP fun x => x.1 = n

/-- How often others were. -/
def others (n : String) (hist : List (String × ℕ)) : ℕ := hist.countP fun x => x.1 ≠ n

@[simp] theorem own_append (hist hist' : List (String × ℕ)) :
    own n (hist ++ hist') = own n hist + own n hist' := List.countP_append ..

@[simp] theorem others_append (hist hist' : List (String × ℕ)) :
    others n (hist ++ hist') = others n hist + others n hist' := List.countP_append ..

/-- What the admissions of a nonce are paid with: `cleanups` cleanups, each
after an expiry, and `evictions` evictions, each of a full set. -/
structure Paid (n : String) (created : ℕ) (cache : ReplayProtectionCache)
    (hist : List (String × ℕ)) (cleanups evictions : ℕ) : Prop where
  own_le : own n hist ≤ (if n ∈ cache.seen then 1 else 0) + cleanups + evictions
  time : cleanups * (cache.expiry + 1) + created ≤ cache.lastCleanup
  held : evictions * (cache.maxEntries - 1) + (cache.seen.erase n).card ≤ others n hist
  evicted : 0 < evictions → evictions * (cache.maxEntries - 1) + 1 ≤ others n hist

variable {created : ℕ} {hist : List (String × ℕ)} {cleanups evictions : ℕ}

theorem own_single (nonce : String) (now : ℕ) :
    own n [(nonce, now)] = if nonce = n then 1 else 0 := by
  by_cases h : nonce = n
  · simp [own, h]
  · simp [own, h]

theorem others_single (nonce : String) (now : ℕ) :
    others n [(nonce, now)] = if nonce = n then 0 else 1 := by
  by_cases h : nonce = n
  · simp [others, h]
  · simp [others, h]

/-- What a new nonce adds to a set that was emptied for it. -/
theorem card_erase_singleton (nonce : String) :
    (({nonce} : Finset String).erase n).card = if nonce = n then 0 else 1 := by
  by_cases h : nonce = n
  · simp [h]
  · rw [if_neg h, Finset.erase_eq_of_notMem (by simp [Ne.symm h]), Finset.card_singleton]

theorem mem_singleton_count (nonce : String) :
    (if n ∈ ({nonce} : Finset String) then 1 else 0) = if nonce = n then 1 else 0 := by
  simp only [Finset.mem_singleton, eq_comm]

/-- An expiry pays for one more admission. -/
theorem Paid.expired (h : Paid n created cache hist cleanups evictions)
    (hold : cache.expiry < call.now - cache.lastCleanup) :
    Paid n created { cache with seen := {call.nonce}, lastCleanup := call.now }
      (hist ++ [(call.nonce, call.now)]) (cleanups + 1) evictions := by
  obtain ⟨hown, htime, hheld, hevicted⟩ := h
  have hin : (if n ∈ cache.seen then 1 else 0) ≤ 1 := by split <;> omega
  constructor
  · rw [own_append, own_single, mem_singleton_count]
    omega
  · rw [Nat.add_mul]
    dsimp only
    omega
  · rw [others_append, others_single, card_erase_singleton]
    dsimp only
    omega
  · intro hpos
    have hevicted := hevicted hpos
    rw [others_append]
    dsimp only
    omega

/-- So does an eviction, which others have paid for: they filled the set,
and one more came. -/
theorem Paid.full (h : Paid n created cache hist cleanups evictions)
    (hnew : call.nonce ∉ cache.seen) (hfull : cache.maxEntries ≤ cache.seen.card) :
    ∃ evictions', Paid n created { cache with seen := {call.nonce} }
      (hist ++ [(call.nonce, call.now)]) cleanups evictions' := by
  obtain ⟨hown, htime, hheld, hevicted⟩ := h
  have hothers := Finset.pred_card_le_card_erase (s := cache.seen) (a := n)
  by_cases hn : n ∈ cache.seen
  · have hother : call.nonce ≠ n := fun heq => hnew (heq ▸ hn)
    rw [if_pos hn] at hown
    refine ⟨evictions + 1, ?_, htime, ?_, fun _ => ?_⟩
    · rw [own_append, own_single, if_neg hother]
      dsimp only
      omega
    · rw [others_append, others_single, card_erase_singleton, if_neg hother, Nat.add_mul]
      dsimp only
      omega
    · rw [others_append, others_single, if_neg hother, Nat.add_mul]
      dsimp only
      omega
  · rw [if_neg hn] at hown
    refine ⟨evictions, ?_, htime, ?_, fun hpos => ?_⟩
    · rw [own_append, own_single, mem_singleton_count]
      omega
    · rw [others_append, others_single, card_erase_singleton]
      dsimp only
      omega
    · have hevicted := hevicted hpos
      rw [others_append]
      dsimp only
      omega

/-- The first admission is for nothing. -/
theorem Paid.room (h : Paid n created cache hist cleanups evictions)
    (hnew : call.nonce ∉ cache.seen) :
    Paid n created { cache with seen := insert call.nonce cache.seen }
      (hist ++ [(call.nonce, call.now)]) cleanups evictions := by
  obtain ⟨hown, htime, hheld, hevicted⟩ := h
  refine ⟨?_, htime, ?_, fun hpos => ?_⟩
  · rw [own_append, own_single]
    by_cases hn : call.nonce = n
    · subst hn
      rw [if_neg hnew] at hown
      rw [if_pos rfl, if_pos (Finset.mem_insert_self ..)]
      omega
    · rw [if_neg hn]
      simp only [Finset.mem_insert, Ne.symm hn, false_or]
      exact hown
  · rw [others_append, others_single]
    by_cases hn : call.nonce = n
    · subst hn
      rw [Finset.erase_insert hnew, if_pos rfl]
      rwa [Finset.erase_eq_of_notMem hnew] at hheld
    · have hne : call.nonce ∉ cache.seen.erase n := fun h => hnew (Finset.mem_of_mem_erase h)
      rw [Finset.erase_insert_of_ne hn, Finset.card_insert_of_notMem hne, if_neg hn]
      dsimp only
      omega
  · have hevicted := hevicted hpos
    rw [others_append]
    dsimp only
    omega

/-- **Every call is paid for.** -/
theorem Paid.step (h : Paid n created cache hist cleanups evictions) (call : Presented) :
    ∃ cleanups' evictions', Paid n created (cache.checkAndAdd call).2
      (hist ++ if (cache.checkAndAdd call).1 then [(call.nonce, call.now)] else [])
        cleanups' evictions' := by
  by_cases hold : cache.expiry < call.now - cache.lastCleanup
  · rw [checkAndAdd_expired hold]
    exact ⟨_, _, h.expired hold⟩
  · by_cases hknown : call.nonce ∈ cache.seen
    · rw [checkAndAdd_known hold hknown]
      dsimp only
      rw [if_neg Bool.false_ne_true, List.append_nil]
      exact ⟨_, _, h⟩
    · rcases le_or_gt cache.maxEntries cache.seen.card with hfull | hroom
      · rw [checkAndAdd_full hold hknown hfull]
        exact ⟨_, h.full hknown hfull⟩
      · rw [checkAndAdd_room hold hknown hroom]
        exact ⟨_, _, h.room hknown⟩

/-- Some calls between two instants take the cache from one state to
another, and have a nonce and others admitted so often. -/
def Spends (n : String) (start stop : ℕ) (cache : ReplayProtectionCache) (times otherTimes : ℕ)
    (cache' : ReplayProtectionCache) : Prop :=
  ∃ calls, cacheGuard.Timed calls ∧ (∀ call ∈ calls, start ≤ call.now ∧ call.now ≤ stop) ∧
    after checkAndAdd cache calls = cache' ∧
    own n (cacheGuard.admissions cache calls) = times ∧
    others n (cacheGuard.admissions cache calls) = otherTimes

variable {cache' cache'' : ReplayProtectionCache} {start middle middle' stop times times'
  otherTimes otherTimes' : ℕ}

theorem admissions_append (cache : ReplayProtectionCache) (calls calls' : List Presented) :
    cacheGuard.admissions cache (calls ++ calls') = cacheGuard.admissions cache calls ++
      cacheGuard.admissions (after checkAndAdd cache calls) calls' := by
  simp only [Guard.admissions, trace_append, List.filter_append, List.map_append]
  rfl

theorem Spends.refl (n : String) (start stop : ℕ) (cache : ReplayProtectionCache) :
    Spends n start stop cache 0 0 cache :=
  ⟨[], List.Pairwise.nil, fun _ hcall => (List.not_mem_nil hcall).elim, rfl, rfl, rfl⟩

/-- **What is spent adds up.** -/
theorem Spends.trans (h : Spends n start middle cache times otherTimes cache')
    (h' : Spends n middle' stop cache' times' otherTimes' cache'') (hstart : start ≤ middle)
    (hgap : middle ≤ middle') (hstop : middle' ≤ stop) :
    Spends n start stop cache (times + times') (otherTimes + otherTimes') cache'' := by
  obtain ⟨calls, htimed, hbetween, hafter, rfl, rfl⟩ := h
  obtain ⟨calls', htimed', hbetween', hafter', rfl, rfl⟩ := h'
  subst hafter
  refine ⟨calls ++ calls', ?_, ?_, ?_, ?_, ?_⟩
  · refine List.pairwise_append.2 ⟨htimed, htimed', fun call hcall call' hcall' => ?_⟩
    exact le_trans (hbetween call hcall).2 (le_trans hgap (hbetween' call' hcall').1)
  · intro call hcall
    rcases List.mem_append.1 hcall with hcall | hcall
    · exact ⟨(hbetween call hcall).1,
        le_trans (hbetween call hcall).2 (le_trans hgap hstop)⟩
    · exact ⟨le_trans (le_trans hstart hgap) (hbetween' call hcall).1, (hbetween' call hcall).2⟩
  · rw [after_append]
    exact hafter'
  · rw [admissions_append, own_append]
  · rw [admissions_append, others_append]

end ReplayProtectionCache

end Ingress

end NhpSba
