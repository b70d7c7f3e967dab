import Mathlib.Data.List.Basic
import Mathlib.Data.List.Pairwise
/-!
# Runs of a deterministic machine

A machine is a step function that reads a state and an input and returns
an output and the next state. This file has what holds of any such
machine over runs of any length: a run splits at any call
(`trace_append`), a law of any two of its calls is one of the run
(`pairwise_trace`), calls that leave the state alone may be deleted
(`trace_of_sublist`), and two machines stepped together agree exactly as
long as each of their steps does (`lockstep_iff`).
-/

namespace NhpSba

namespace Machine

variable {σ τ ι ο : Type*} (step : σ → ι → ο × σ)

/-- The state after a run. -/
def after (s : σ) : List ι → σ
  | [] => s
  | i :: is => after (step s i).2 is

/-- The inputs of a run, each with the output it got. -/
def trace (s : σ) : List ι → List (ι × ο)
  | [] => []
  | i :: is => (i, (step s i).1) :: trace (step s i).2 is

@[simp] theorem after_nil (s : σ) : after step s [] = s := rfl

@[simp] theorem after_cons (s : σ) (i : ι) (is : List ι) :
    after step s (i :: is) = after step (step s i).2 is := rfl

@[simp] theorem trace_nil (s : σ) : trace step s [] = [] := rfl

@[simp] theorem trace_cons (s : σ) (i : ι) (is : List ι) :
    trace step s (i :: is) = (i, (step s i).1) :: trace step (step s i).2 is := rfl

theorem after_append (s : σ) (is js : List ι) :
    after step s (is ++ js) = after step (after step s is) js := by
  induction is generalizing s with
  | nil => rfl
  | cons i is ih => exact ih _

/-- The state before the last call of a run is the state after the rest. -/
theorem after_concat (s : σ) (is : List ι) (i : ι) :
    after step s (is ++ [i]) = (step (after step s is) i).2 := by
  rw [after_append, after_cons, after_nil]

/-- **A run splits at any call.** -/
theorem trace_append (s : σ) (is js : List ι) :
    trace step s (is ++ js) = trace step s is ++ trace step (after step s is) js := by
  induction is generalizing s with
  | nil => rfl
  | cons i is ih => simp only [List.cons_append, trace_cons, after_cons, ih]

@[simp] theorem map_fst_trace (s : σ) (is : List ι) : (trace step s is).map Prod.fst = is := by
  induction is generalizing s with
  | nil => rfl
  | cons i is ih => simp only [trace_cons, List.map_cons, ih]

/-! ## Two calls of a run -/

variable {step}

/-- A call of a run got its output in the state its predecessors left. -/
theorem exists_split_of_mem_trace {s : σ} {is : List ι} {x : ι × ο} (h : x ∈ trace step s is) :
    ∃ pre post, is = pre ++ x.1 :: post ∧ x.2 = (step (after step s pre) x.1).1 := by
  induction is generalizing s with
  | nil => cases h
  | cons i is ih =>
    rcases List.mem_cons.1 h with rfl | h
    · exact ⟨[], is, rfl, rfl⟩
    · obtain ⟨pre, post, rfl, hout⟩ := ih h
      exact ⟨i :: pre, post, rfl, hout⟩

/-- **A law of two calls of a run**, the earlier one given first: it is
enough to prove it for two calls and what lies between them. -/
theorem pairwise_trace {R : ι × ο → ι × ο → Prop} {s : σ} {is : List ι}
    (h : ∀ pre i mid j post, is = pre ++ i :: (mid ++ j :: post) →
      R (i, (step (after step s pre) i).1)
        (j, (step (after step s (pre ++ i :: mid)) j).1)) :
    (trace step s is).Pairwise R := by
  induction is generalizing s with
  | nil => exact List.Pairwise.nil
  | cons i is ih =>
    refine List.Pairwise.cons (fun y hy => ?_) (ih fun pre k mid j post hsplit => ?_)
    · obtain ⟨mid, post, rfl, hout⟩ := exists_split_of_mem_trace hy
      have := h [] i mid y.1 post rfl
      simp only [List.nil_append, after_cons] at this
      rw [← hout] at this
      exact this
    · have := h (i :: pre) k mid j post (by rw [hsplit, List.cons_append])
      exact this

/-! ## Steps that all meet a condition -/

/-- What holds at every call of a nonempty run holds at its first call and
at every call of the rest. -/
theorem forall_split_cons {Q : List ι → ι → Prop} {i : ι} {is : List ι} :
    (∀ pre j post, i :: is = pre ++ j :: post → Q pre j) ↔
      Q [] i ∧ ∀ pre j post, is = pre ++ j :: post → Q (i :: pre) j := by
  constructor
  · intro h
    exact ⟨h [] i is rfl, fun pre j post hsplit =>
      h (i :: pre) j post (by rw [hsplit, List.cons_append])⟩
  · rintro ⟨hi, his⟩ pre j post hsplit
    cases pre with
    | nil =>
      obtain ⟨rfl, rfl⟩ := List.cons.inj hsplit
      exact hi
    | cons k pre =>
      obtain ⟨rfl, rfl⟩ := List.cons.inj hsplit
      exact his pre j post rfl

/-- There is no call in an empty run. -/
theorem forall_split_nil {Q : List ι → ι → Prop} :
    ∀ pre j post, ([] : List ι) = pre ++ j :: post → Q pre j := by
  intro pre i post h
  cases pre <;> cases h

/-- Every step of a run meets a condition on the state before it and its
input. -/
def AllSteps (step : σ → ι → ο × σ) (P : σ → ι → Prop) (s : σ) (is : List ι) : Prop :=
  ∀ pre i post, is = pre ++ i :: post → P (after step s pre) i

theorem allSteps_nil {P : σ → ι → Prop} {s : σ} : AllSteps step P s [] :=
  forall_split_nil

theorem allSteps_cons {P : σ → ι → Prop} {s : σ} {i : ι} {is : List ι} :
    AllSteps step P s (i :: is) ↔ P s i ∧ AllSteps step P (step s i).2 is :=
  forall_split_cons (Q := fun pre j => P (after step s pre) j)

/-! ## Calls that change nothing -/

/-- A call that succeeds under a condition, and leaves the state alone
without it, leaves it alone where it fails. -/
theorem unchanged_of_failed {p : Prop} [Decidable p] {r : Bool × σ} {s s' : σ}
    (h : r = if p then (true, s') else (false, s)) (hfail : r.1 = false) : r.2 = s := by
  subst h
  by_cases hp : p
  · rw [if_pos hp] at hfail
    cases hfail
  · rw [if_neg hp]

/-- Such a call keeps what its success keeps. -/
theorem kept_of_guarded {p : Prop} [Decidable p] {I : σ → Prop} {r : Bool × σ} {s s' : σ}
    (h : r = if p then (true, s') else (false, s)) (hs : I s) (hs' : p → I s') : I r.2 := by
  subst h
  by_cases hp : p
  · rw [if_pos hp]
    exact hs' hp
  · rw [if_neg hp]
    exact hs

/-- **Silent calls may be deleted.** Where every call with a failed output
leaves the state alone, deleting any failed calls from a run leaves every
other call its output: what is kept of the trace is a trace. -/
theorem trace_of_sublist {ok : ο → Bool}
    (hsilent : ∀ s i, ok (step s i).1 = false → (step s i).2 = s) {s : σ} {is : List ι}
    {kept : List (ι × ο)} (hsub : kept.Sublist (trace step s is))
    (hkept : kept.filter (fun x => ok x.2) = (trace step s is).filter (fun x => ok x.2)) :
    trace step s (kept.map Prod.fst) = kept := by
  induction is generalizing s kept with
  | nil =>
    obtain rfl := List.sublist_nil.1 hsub
    rfl
  | cons i is ih =>
    rw [trace_cons] at hsub hkept
    by_cases hin : kept.Sublist (trace step (step s i).2 is)
    · -- the first call was deleted, so it failed and left the state alone
      have hfail : ok (step s i).1 = false := by
        by_contra hok
        rw [Bool.not_eq_false] at hok
        rw [List.filter_cons_of_pos (by exact hok)] at hkept
        have hlen := (hin.filter (fun x => ok x.2)).length_le
        rw [hkept, List.length_cons] at hlen
        omega
      rw [List.filter_cons_of_neg (by simp [hfail])] at hkept
      rw [hsilent s i hfail] at hin hkept
      exact ih hin hkept
    · cases hsub with
      | cons _ h => exact absurd h hin
      | @cons_cons kept' _ _ h =>
        have hrest : kept'.filter (fun x => ok x.2) =
            (trace step (step s i).2 is).filter (fun x => ok x.2) := by
          by_cases hok : ok (step s i).1 = true
          · rw [List.filter_cons_of_pos (by exact hok),
              List.filter_cons_of_pos (by exact hok)] at hkept
            exact (List.cons.inj hkept).2
          · rwa [List.filter_cons_of_neg (by exact hok),
              List.filter_cons_of_neg (by exact hok)] at hkept
        rw [List.map_cons, trace_cons, ih h hrest]

/-! ## What runs lead to -/

variable (step) in
/-- A run leads from a state to another. -/
def Reaches (s s' : σ) : Prop := ∃ is, after step s is = s'

theorem Reaches.start (s : σ) : Reaches step s s := ⟨[], rfl⟩

theorem Reaches.call {s s' : σ} (h : Reaches step s s') (i : ι) : Reaches step s (step s' i).2 := by
  obtain ⟨is, rfl⟩ := h
  exact ⟨is ++ [i], after_concat step s is i⟩

/-- A call whose guard holds leads on. -/
theorem Reaches.guarded {s s' s'' s''' : σ} {i : ι} {o o' : ο} {p : Prop} [Decidable p]
    (h : Reaches step s s') (hstep : step s' i = if p then (o, s'') else (o', s''')) (hp : p) :
    Reaches step s s'' := by
  have hnext := h.call i
  rwa [hstep, if_pos hp] at hnext

/-- **What every call keeps** holds of what a run leads to. -/
theorem Reaches.invariant {I : σ → Prop} {s s' : σ} (h : Reaches step s s') (hs : I s)
    (hstep : ∀ s i, I s → I (step s i).2) : I s' := by
  obtain ⟨is, rfl⟩ := h
  induction is generalizing s with
  | nil => exact hs
  | cons i is ih => exact ih (hstep s i hs)

/-! ## Two machines in lockstep -/

/-- Two machines fed the same inputs give the same output at every call
and are left in states that correspond. -/
def Lockstep (step : σ → ι → ο × σ) (step' : τ → ι → ο × τ) (R : σ → τ → Prop) (s : σ) (t : τ)
    (is : List ι) : Prop :=
  ∀ pre i post, is = pre ++ i :: post →
    (step (after step s pre) i).1 = (step' (after step' t pre) i).1 ∧
      R (step (after step s pre) i).2 (step' (after step' t pre) i).2

variable {step' : τ → ι → ο × τ} {R : σ → τ → Prop}

theorem lockstep_cons {s : σ} {t : τ} {i : ι} {is : List ι} :
    Lockstep step step' R s t (i :: is) ↔
      ((step s i).1 = (step' t i).1 ∧ R (step s i).2 (step' t i).2) ∧
        Lockstep step step' R (step s i).2 (step' t i).2 is :=
  forall_split_cons (Q := fun pre j =>
    (step (after step s pre) j).1 = (step' (after step' t pre) j).1 ∧
      R (step (after step s pre) j).2 (step' (after step' t pre) j).2)

/-- **Lockstep, exactly.** Where a condition on the first machine's state
and the input says when one step of the two from corresponding states
agrees, a whole run agrees exactly when each of its steps meets it. What
the condition says may rest on an invariant of the first machine. -/
theorem lockstep_iff {I : σ → Prop} {ok : σ → ι → Prop}
    (hinv : ∀ s i, I s → I (step s i).2)
    (hok : ∀ s t i, I s → R s t →
      (((step s i).1 = (step' t i).1 ∧ R (step s i).2 (step' t i).2) ↔ ok s i))
    {s : σ} {t : τ} (hs : I s) (h : R s t) (is : List ι) :
    Lockstep step step' R s t is ↔ AllSteps step ok s is := by
  induction is generalizing s t with
  | nil => exact ⟨fun _ => allSteps_nil, fun _ => forall_split_nil⟩
  | cons i is ih =>
    rw [lockstep_cons, allSteps_cons, hok s t i hs h]
    constructor
    · rintro ⟨hi, his⟩
      exact ⟨hi, (ih (hinv s i hs) ((hok s t i hs h).2 hi).2).1 his⟩
    · rintro ⟨hi, his⟩
      exact ⟨hi, (ih (hinv s i hs) ((hok s t i hs h).2 hi).2).2 his⟩

end Machine

end NhpSba
