import Mathlib.Data.List.Infix
/-!
# Stages that stop at the first to fail

Stages are run in order, and the first that fails ends the run. What was
run is a prefix of the stages (`executed_prefix`), all of it but its last
stage passed (`passed_of_mem_dropLast`), and the last passed exactly where
every stage does (`exists_getLast?_executed`).
-/

namespace NhpSba

namespace Stages

variable {α : Type*} (passed : α → Bool)

/-- The stages that are run: those before the first that fails, and it. -/
def executed : List α → List α
  | [] => []
  | x :: xs => if passed x then x :: executed xs else [x]

variable {passed} {x : α} {xs : List α}

theorem executed_cons_of_passed (h : passed x = true) :
    executed passed (x :: xs) = x :: executed passed xs := if_pos h

theorem executed_cons_of_failed (h : passed x = false) : executed passed (x :: xs) = [x] :=
  if_neg (by rw [h]; decide)

variable (passed xs) in
/-- **What is run is a prefix.** -/
theorem executed_prefix : executed passed xs <+: xs := by
  induction xs with
  | nil => exact List.prefix_rfl
  | cons x xs ih =>
    cases hx : passed x with
    | false =>
      rw [executed_cons_of_failed hx]
      exact ⟨xs, rfl⟩
    | true =>
      rw [executed_cons_of_passed hx]
      exact List.cons_prefix_cons.2 ⟨rfl, ih⟩

/-- Only the last stage of a run may fail. -/
theorem passed_of_mem_dropLast {y : α} (h : y ∈ (executed passed xs).dropLast) :
    passed y = true := by
  induction xs with
  | nil => cases h
  | cons x xs ih =>
    cases hx : passed x with
    | false =>
      rw [executed_cons_of_failed hx] at h
      cases h
    | true =>
      rw [executed_cons_of_passed hx] at h
      -- the head is the last stage run only where there are no more
      by_cases hrest : executed passed xs = []
      · rw [hrest] at h
        cases h
      · rw [List.dropLast_cons_of_ne_nil hrest] at h
        rcases List.mem_cons.1 h with rfl | h
        · exact hx
        · exact ih h

variable (passed) in
/-- **A run ends well** exactly where every stage passes. -/
theorem exists_getLast?_executed (h : xs ≠ []) :
    ∃ y, (executed passed xs).getLast? = some y ∧
      (passed y = true ↔ ∀ x ∈ xs, passed x = true) := by
  induction xs with
  | nil => exact absurd rfl h
  | cons x xs ih =>
    rw [List.forall_mem_cons]
    cases hx : passed x with
    | false =>
      refine ⟨x, by rw [executed_cons_of_failed hx]; rfl, ?_⟩
      rw [hx]
      simp
    | true =>
      rw [executed_cons_of_passed hx]
      by_cases hrest : xs = []
      · subst hrest
        exact ⟨x, rfl, by simp [hx]⟩
      · obtain ⟨y, hy, hlast⟩ := ih hrest
        refine ⟨y, ?_, by rw [hlast]; simp⟩
        rw [List.getLast?_cons, hy]
        rfl

/-- Where every stage passes, every stage is run. -/
theorem executed_eq_self (h : ∀ x ∈ xs, passed x = true) : executed passed xs = xs := by
  induction xs with
  | nil => rfl
  | cons x xs ih =>
    obtain ⟨hx, hxs⟩ := List.forall_mem_cons.1 h
    rw [executed_cons_of_passed hx, ih hxs]

end Stages

end NhpSba
