import NhpSba.Common.Machine
import Mathlib.Order.Defs.PartialOrder
/-!
# Runs of a system of parties

A system starts in one of its initial states and goes on as its parties
act, in any order: an action is given with all that it chooses. This file
has what holds of any such system over runs of any length: an invariant
holds in the states of the runs whose steps all meet a condition
(`Run.invariant`), a simulation carries runs to runs
(`Reachable.simulate`), a part that is a machine runs as one
(`Run.component`), and what a counter marks as it rises comes in increasing
order (`Run.pairwise_marks`).
-/

namespace NhpSba

/-- A transition system: where it may start, and how an action takes it on. -/
structure System (ι σ : Type*) where
  Init : σ → Prop
  Next : ι → σ → σ → Prop

namespace System

variable {ι κ σ τ α : Type*} {T : System ι σ} {U : System κ τ}

variable (T) in
/-- `T.Run ts s`: the steps of `ts`, in order, lead from an initial state
to `s`. A step is the state before it, its action, and the state after. -/
inductive Run : List (σ × ι × σ) → σ → Prop
  | init {s : σ} : T.Init s → Run [] s
  | step {ts : List (σ × ι × σ)} {s s' : σ} (h : Run ts s) (i : ι) (hnext : T.Next i s s') :
      Run (ts ++ [(s, i, s')]) s'

variable (T) in
/-- A state that a run leads to. -/
def Reachable (s : σ) : Prop := ∃ ts, T.Run ts s

/-- Every step meets a condition on the state before it and its action. -/
def AllSteps (P : σ → ι → Prop) (ts : List (σ × ι × σ)) : Prop := ∀ t ∈ ts, P t.1 t.2.1

theorem allSteps_concat {P : σ → ι → Prop} {ts : List (σ × ι × σ)} {s s' : σ} {i : ι} :
    AllSteps P (ts ++ [(s, i, s')]) ↔ AllSteps P ts ∧ P s i := by
  simp [AllSteps, or_imp, forall_and]

/-- **An invariant holds along a run** whose steps all meet a condition:
it holds at the start, and such a step keeps it. -/
theorem Run.invariant {I : σ → Prop} {P : σ → ι → Prop} (hinit : ∀ s, T.Init s → I s)
    (hstep : ∀ i s s', I s → P s i → T.Next i s s' → I s') {ts : List (σ × ι × σ)} {s : σ}
    (h : T.Run ts s) (hP : AllSteps P ts) : I s := by
  induction h with
  | init hs => exact hinit _ hs
  | step _ i hnext ih =>
    obtain ⟨hts, hlast⟩ := allSteps_concat.1 hP
    exact hstep i _ _ (ih hts) hlast hnext

theorem Reachable.init {s : σ} (h : T.Init s) : T.Reachable s := ⟨[], .init h⟩

theorem Reachable.step {s s' : σ} (h : T.Reachable s) (i : ι) (hnext : T.Next i s s') :
    T.Reachable s' := by
  obtain ⟨ts, hts⟩ := h
  exact ⟨_, hts.step i hnext⟩

/-- **An invariant holds in every reachable state.** -/
theorem Reachable.invariant {I : σ → Prop} (hinit : ∀ s, T.Init s → I s)
    (hstep : ∀ i s s', I s → T.Next i s s' → I s') {s : σ} (h : T.Reachable s) : I s := by
  obtain ⟨ts, hts⟩ := h
  exact hts.invariant (P := fun _ _ => True) hinit (fun i s s' hI _ => hstep i s s' hI)
    fun _ _ => trivial

/-- A step of a run is a step of the system, from a reachable state. -/
theorem Run.step_of_mem {ts : List (σ × ι × σ)} {s : σ} (h : T.Run ts s) {t : σ × ι × σ}
    (ht : t ∈ ts) : T.Reachable t.1 ∧ T.Next t.2.1 t.1 t.2.2 := by
  induction h with
  | init _ => cases ht
  | step hts i hnext ih =>
    rcases List.mem_append.1 ht with ht | ht
    · exact ih ht
    · obtain rfl := List.mem_singleton.1 ht
      exact ⟨⟨_, hts⟩, hnext⟩

/-- A run splits at any of its steps. -/
theorem Run.split {ts : List (σ × ι × σ)} {s : σ} (h : T.Run ts s) {pre post : List (σ × ι × σ)}
    {t : σ × ι × σ} (hts : ts = pre ++ t :: post) :
    T.Run pre t.1 ∧ T.Next t.2.1 t.1 t.2.2 := by
  induction h generalizing post with
  | init _ => simp at hts
  | step hbefore i hnext ih =>
    rcases List.eq_nil_or_concat post with rfl | ⟨post, last, rfl⟩
    · obtain ⟨rfl, hlast⟩ := List.append_inj' hts rfl
      obtain rfl := List.singleton_inj.1 hlast
      exact ⟨hbefore, hnext⟩
    · rw [List.concat_eq_append, ← List.cons_append, ← List.append_assoc] at hts
      exact ih (List.append_inj' hts rfl).1

/-- **A simulation carries runs to runs.** What is related to the initial
states is initial, and each step is matched by one of the other system. -/
theorem Reachable.simulate {R : σ → τ → Prop} (hinit : ∀ s, T.Init s → ∃ t, U.Init t ∧ R s t)
    (hstep : ∀ i s s' t, R s t → T.Next i s s' → ∃ k t', U.Next k t t' ∧ R s' t') {s : σ}
    (h : T.Reachable s) : ∃ t, U.Reachable t ∧ R s t := by
  refine h.invariant (I := fun s => ∃ t, U.Reachable t ∧ R s t) (fun s hs => ?_) ?_
  · obtain ⟨t, ht, hR⟩ := hinit s hs
    exact ⟨t, Reachable.init ht, hR⟩
  · rintro i s s' ⟨t, ht, hR⟩ hnext
    obtain ⟨k, t', hnext', hR'⟩ := hstep i s s' t hR hnext
    exact ⟨t', ht.step k hnext', hR'⟩

/-! ## Components -/

/-- What a run collects, with its last step taken off. -/
theorem filterMap_concat {β γ : Type*} (f : β → Option γ) (xs : List β) (x : β) :
    (xs ++ [x]).filterMap f = xs.filterMap f ++ (f x).toList := by
  rw [List.filterMap_append]
  cases hx : f x with
  | none => rw [List.filterMap_cons_none hx]; rfl
  | some y => rw [List.filterMap_cons_some hx]; rfl

/-- **A part of a system that is a machine runs as one.** Where each step
either leaves the part alone or gives it an input, the part is where the
machine is after the inputs of the run, and each of these got the output
that the machine gives. -/
theorem Run.component {ο : Type*} (part : σ → τ) {start : τ} {step : τ → κ → ο × τ}
    {input : σ × ι × σ → Option κ} (hinit : ∀ s, T.Init s → part s = start)
    (hnext : ∀ i s s', T.Next i s s' →
      part s' = (input (s, i, s')).elim (part s) fun k => (step (part s) k).2)
    {ts : List (σ × ι × σ)} {s : σ} (h : T.Run ts s) :
    part s = Machine.after step start (ts.filterMap input) ∧
      ts.filterMap (fun t => (input t).map fun k => (k, (step (part t.1) k).1))
        = Machine.trace step start (ts.filterMap input) := by
  induction h with
  | init hs => exact ⟨hinit _ hs, rfl⟩
  | @step ts s s' _ i hstep ih =>
    obtain ⟨hpart, htrace⟩ := ih
    have hlast := hnext i s s' hstep
    rw [filterMap_concat, filterMap_concat, htrace]
    cases hi : input (s, i, s') with
    | none =>
      rw [hi] at hlast
      simp only [Option.map_none, Option.toList_none, List.append_nil]
      exact ⟨hlast.trans hpart, trivial⟩
    | some k =>
      rw [hi] at hlast
      simp only [Option.map_some, Option.toList_some, Machine.after_concat, Machine.trace_append,
        Machine.trace_cons, Machine.trace_nil, ← hpart]
      exact ⟨hlast, trivial⟩

/-! ## Counters -/

/-- **Marks increase.** Where no step lowers a counter, and one that
leaves a mark raises the counter from below the mark to it or past it, the
marks of a run come in increasing order, and the counter has passed them
all. The induction takes the run's last step off. -/
theorem Run.pairwise_marks [Preorder α] (counter : σ → α) {mark : σ × ι × σ → Option α}
    (hmono : ∀ i s s', T.Next i s s' → counter s ≤ counter s')
    (hmark : ∀ i s s' n, T.Next i s s' → mark (s, i, s') = some n →
      counter s < n ∧ n ≤ counter s') {ts : List (σ × ι × σ)} {s : σ} (h : T.Run ts s) :
    (ts.filterMap mark).Pairwise (· < ·) ∧ ∀ n ∈ ts.filterMap mark, n ≤ counter s := by
  -- no mark so far is above the counter, and a new one is
  induction h with
  | init _ => exact ⟨List.Pairwise.nil, fun n hn => by cases hn⟩
  | @step ts s s' _ i hnext ih =>
    obtain ⟨hincreasing, hpassed⟩ := ih
    rw [List.filterMap_append]
    cases hm : mark (s, i, s') with
    | none =>
      rw [List.filterMap_cons_none hm, List.filterMap_nil, List.append_nil]
      exact ⟨hincreasing, fun n hn => le_trans (hpassed n hn) (hmono i s s' hnext)⟩
    | some k =>
      obtain ⟨hbelow, habove⟩ := hmark i s s' k hnext hm
      rw [List.filterMap_cons_some hm, List.filterMap_nil]
      refine ⟨List.pairwise_append.2 ⟨hincreasing, List.pairwise_singleton _ _, ?_⟩, ?_⟩
      · intro n hn n' hn'
        obtain rfl := List.mem_singleton.1 hn'
        exact lt_of_le_of_lt (hpassed n hn) hbelow
      · intro n hn
        rcases List.mem_append.1 hn with hn | hn
        · exact le_trans (hpassed n hn) (le_of_lt (lt_of_lt_of_le hbelow habove))
        · obtain rfl := List.mem_singleton.1 hn
          exact habove

end System

end NhpSba
