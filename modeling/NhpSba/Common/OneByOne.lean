import Mathlib.Data.Set.Finite.Basic
import Mathlib.Data.Set.Piecewise
/-!
# What is done one by one

Where a thing can be added to a set, or the value of one party be changed,
without spoiling a property, finitely many can be: `of_finite` for sets,
`of_agentwise` for the values of parties. Together they lead from the start
of a system of parties to a state of it, whatever the order in which the
parties act.
-/

namespace NhpSba

variable {α β : Type*}

/-- What can be added one by one can be added at once. -/
theorem of_finite {P : Set α → Prop} {before added : Set α} (hfinite : added.Finite)
    (hbefore : P before) (hadd : ∀ x ∈ added, ∀ xs, P xs → P (xs ∪ {x})) :
    P (before ∪ added) := by
  refine Set.Finite.induction_on_subset added hfinite (motive := fun xs _ => P (before ∪ xs)) ?_ ?_
  · rw [Set.union_empty]
    exact hbefore
  · intro x xs hx _ _ hxs
    have hnext := hadd x hx _ hxs
    rwa [Set.union_assoc, Set.union_singleton] at hnext

open Classical in
/-- What can be changed for one party can be changed for all whom it
concerns: each of them still has what it had when its turn comes. -/
theorem of_agentwise [DecidableEq α] {P : (α → β) → Prop} {before now : α → β} {changed : Set α}
    (hfinite : changed.Finite) (hsame : ∀ a, a ∉ changed → now a = before a) (hbefore : P before)
    (hchange : ∀ a ∈ changed, ∀ who, who a = before a → P who →
      P (Function.update who a (now a))) : P now := by
  have hall : P (changed.piecewise now before) := by
    refine Set.Finite.induction_on_subset changed hfinite
      (motive := fun turned _ => P (turned.piecewise now before)) ?_ ?_
    · rw [Set.piecewise_empty]
      exact hbefore
    · intro a turned ha _ hnew hturned
      rw [Set.piecewise_insert]
      exact hchange a ha _ (Set.piecewise_eq_of_notMem _ _ _ hnew) hturned
  have hnow : changed.piecewise now before = now := by
    funext a
    by_cases ha : a ∈ changed
    · exact Set.piecewise_eq_of_mem _ _ _ ha
    · rw [Set.piecewise_eq_of_notMem _ _ _ ha, hsame a ha]
  rwa [hnow] at hall

end NhpSba
