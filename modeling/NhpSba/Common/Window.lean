import NhpSba.Common.Machine
import Mathlib.Algebra.Order.Group.Defs
import Mathlib.Data.Int.Notation
import Mathlib.Data.List.Induction
import Mathlib.Algebra.Order.Group.Unbundled.Basic
/-!
# Sliding windows that count

A limiter admits an input when fewer than its limit of the earlier
admissions with the same key lie within its width before the input. This
machine keeps the whole history of its admissions, and so is its own
specification: its laws are that it admits no more than its limit within
any window (`length_filter_le`), that a refusal leaves no trace
(`step_refused`) and that keys do not mix (`filter_trace`).

An implementation keeps for each key the times it has not yet pruned.
`Follows` says what such a table and the history must agree on from some
time on, and that pruning and admitting keep it.
-/

namespace NhpSba

open Machine

/-- A limiter: what an input's key and time are, how many admissions it
allows, and for how long one counts. -/
structure Limiter (ι κ T : Type) where
  key : ι → κ
  time : ι → T
  limit : ℤ
  width : T

namespace Limiter

variable {ι κ T : Type} [DecidableEq κ] [AddCommGroup T] [LinearOrder T]
  (L : Limiter ι κ T)

/-- An earlier admission counts against an input. -/
def counts (i earlier : ι) : Bool :=
  L.key earlier = L.key i ∧ L.time i - L.time earlier < L.width

/-- Admit an input that not too many earlier admissions count against. -/
def step (hist : List ι) (i : ι) : Bool × List ι :=
  if ((hist.filter (L.counts i)).length : ℤ) < L.limit then (true, hist ++ [i]) else (false, hist)

variable {L}

theorem step_admitted {hist : List ι} {i : ι} (h : (L.step hist i).1 = true) :
    ((hist.filter (L.counts i)).length : ℤ) < L.limit ∧ (L.step hist i).2 = hist ++ [i] := by
  unfold step at h ⊢
  split at h
  · next hlt =>
    rw [if_pos hlt]
    exact ⟨hlt, rfl⟩
  · cases h

/-- **A refusal leaves no trace.** -/
theorem step_refused {hist : List ι} {i : ι} (h : (L.step hist i).1 = false) :
    (L.step hist i).2 = hist := by
  unfold step at h ⊢
  split at h
  · cases h
  · next hlt => rw [if_neg hlt]

/-- The history is what was admitted. -/
theorem after_step (hist is : List ι) :
    after L.step hist is =
      hist ++ ((trace L.step hist is).filter fun x => x.2).map Prod.fst := by
  induction is generalizing hist with
  | nil => rw [after_nil, trace_nil, List.filter_nil, List.map_nil, List.append_nil]
  | cons i is ih =>
    rw [after_cons, trace_cons, ih]
    cases h : (L.step hist i).1 with
    | true =>
      rw [(step_admitted h).2, List.filter_cons_of_pos (by rfl), List.map_cons,
        List.append_assoc, List.singleton_append]
    | false => rw [step_refused h, List.filter_cons_of_neg (by simp)]

/-- **No window holds more than the limit.** Where any two inputs of a kind
count against each other, at most `limit` of them are admitted. -/
theorem length_filter_le {P : ι → Bool} (hP : ∀ i j, P i = true → P j = true → L.counts i j = true)
    (is : List ι) : ((after L.step [] is).filter P).length ≤ L.limit.toNat := by
  induction is using List.reverseRecOn with
  | nil => exact Nat.zero_le _
  | append_singleton is i ih =>
    rw [after_concat]
    cases h : (L.step (after L.step [] is) i).1 with
    | false =>
      rw [step_refused h]
      exact ih
    | true =>
      obtain ⟨hlt, hnext⟩ := step_admitted h
      rw [hnext, List.filter_append, List.length_append]
      by_cases hi : P i = true
      · -- all that were admitted before count against this one
        have hle : ((after L.step [] is).filter P).length ≤
            ((after L.step [] is).filter (L.counts i)).length :=
          (List.monotone_filter_right _ fun j hj => hP i j hi hj).length_le
        rw [List.filter_cons_of_pos hi, List.filter_nil, List.length_singleton]
        omega
      · rw [List.filter_cons_of_neg hi, List.filter_nil, List.length_nil]
        omega

/-- **Keys do not mix.** The verdicts on one key's inputs are those of a
run that has no other inputs. -/
theorem filter_trace (k : κ) (hist is : List ι) :
    (trace L.step hist is).filter (fun x => L.key x.1 = k) =
      trace L.step (hist.filter fun i => L.key i = k) (is.filter fun i => L.key i = k) := by
  induction is generalizing hist with
  | nil => rfl
  | cons i is ih =>
    rw [trace_cons]
    by_cases hi : L.key i = k
    · -- what counts for an input has its key, so the filter takes nothing away
      have hcounts : (hist.filter fun j => L.key j = k).filter (L.counts i)
          = hist.filter (L.counts i) := by
        rw [List.filter_filter]
        refine List.filter_congr fun j _ => ?_
        simp only [counts, hi]
        by_cases hj : L.key j = k <;> simp [hj]
      have hstep : L.step (hist.filter fun j => L.key j = k) i
          = ((L.step hist i).1, (L.step hist i).2.filter fun j => L.key j = k) := by
        simp only [step, hcounts]
        split
        · simp [hi]
        · rfl
      rw [List.filter_cons_of_pos (by simp [hi]), List.filter_cons_of_pos (by simp [hi]),
        trace_cons, hstep, ih]
    · -- an input of another key is filtered out of the history again
      have hstep : (L.step hist i).2.filter (fun j => L.key j = k)
          = hist.filter fun j => L.key j = k := by
        simp only [step]
        split
        · simp [hi]
        · rfl
      rw [List.filter_cons_of_neg (by simp [hi]), List.filter_cons_of_neg (by simp [hi]), ih, hstep]

/-! ## Tables of times -/

/-- The times a key's admissions were made at. -/
def times (hist : List ι) (k : κ) : List T := (hist.filter fun i => L.key i = k).map L.time

/-- The times of a list that still count at a time. -/
def live (w now : T) (ts : List T) : List T := ts.filter fun t => now - t < w

/-- A table of times agrees with a history on what counts, at a time and
ever after. -/
def Follows (L : Limiter ι κ T) (found : κ → List T) (hist : List ι) (now : T) : Prop :=
  ∀ k t, now ≤ t → live L.width t (found k) = live L.width t (L.times hist k)

/-- The admissions that count against an input are the live times of its
key. -/
theorem length_live_times (hist : List ι) (i : ι) :
    (live L.width (L.time i) (L.times hist (L.key i))).length
      = (hist.filter (L.counts i)).length := by
  rw [live, times, List.filter_map, List.length_map, List.filter_filter]
  refine congrArg List.length (List.filter_congr fun j _ => ?_)
  simp only [counts, Function.comp_apply, Bool.decide_and, Bool.and_comm]

theorem Follows.later {found : κ → List T} {hist : List ι} {now t : T}
    (h : L.Follows found hist now) (hle : now ≤ t) : L.Follows found hist t :=
  fun k t' ht' => h k t' (le_trans hle ht')

variable [IsOrderedAddMonoid T]

/-- What counts later counts now, so dropping what does not count now
loses nothing. -/
theorem live_live {w now t : T} (h : now ≤ t) (ts : List T) :
    live w t (live w now ts) = live w t ts := by
  rw [live, live, live, List.filter_filter]
  refine List.filter_congr fun s _ => ?_
  have hmono : t - s < w → now - s < w := fun hlt =>
    lt_of_le_of_lt (sub_le_sub_right h s) hlt
  by_cases hs : t - s < w
  · simp [hs, hmono hs]
  · simp [hs]

/-- **Pruning one key keeps the agreement.** -/
theorem Follows.prune {found : κ → List T} {hist : List ι} {now : T}
    (h : L.Follows found hist now) (k : κ) :
    L.Follows (Function.update found k (live L.width now (found k))) hist now := by
  intro k' t ht
  by_cases hk : k' = k
  · subst hk
    rw [Function.update_self, live_live ht, h k' t ht]
  · rw [Function.update_of_ne hk, h k' t ht]

omit [IsOrderedAddMonoid T] in
/-- **Recording an admission keeps the agreement.** -/
theorem Follows.admit {found : κ → List T} {hist : List ι} {i : ι} {now : T}
    (h : L.Follows found hist now) :
    L.Follows (Function.update found (L.key i) (found (L.key i) ++ [L.time i])) (hist ++ [i])
      now := by
  intro k t ht
  have hlive := h k t ht
  by_cases hk : k = L.key i
  · subst hk
    rw [Function.update_self, times, List.filter_append, List.map_append,
      List.filter_cons_of_pos (by simp), List.filter_nil, live, live, List.filter_append,
      List.filter_append]
    exact congrArg (· ++ _) hlive
  · rw [Function.update_of_ne hk, times, List.filter_append,
      List.filter_cons_of_neg (by simpa using fun h => hk h.symm), List.filter_nil,
      List.append_nil]
    exact hlive

end Limiter

end NhpSba
