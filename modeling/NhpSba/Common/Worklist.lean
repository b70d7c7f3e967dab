import Mathlib.Data.Finset.Card
import Mathlib.Data.Set.Finite.Basic
import Mathlib.Logic.Relation
/-!
# Worklist search

A search takes the first node off its queue and appends those of its
successors whose key it has not visited. Its visited keys are keys of
reachable nodes, and each is of a node that is still queued or whose
successors are all visited (`Explores`). So where nodes with one key have
successors with the same keys, a search that ends has visited them all
(`visited_of_done`), and it ends exactly where they are finitely many
(`exists_done_iff_finite`), after one round for each (`rounds_eq_card`).
-/

namespace NhpSba

open Relation

/-- The variables of a search. -/
structure Search (ν κ : Type*) where
  queue : List ν
  visited : Finset κ

namespace Search

variable {ν κ : Type*} [DecidableEq κ] (key : ν → κ) (succ : ν → List ν)

/-- A search starts at one node. -/
def start (x : ν) : Search ν κ where
  queue := [x]
  visited := {key x}

/-- What becomes of a successor. -/
def visit (w : Search ν κ) (y : ν) : Search ν κ :=
  if key y ∈ w.visited then w
  else { queue := w.queue ++ [y], visited := insert (key y) w.visited }

/-- One round; an empty queue ends the search. -/
def round (w : Search ν κ) : Search ν κ :=
  match w.queue with
  | [] => w
  | x :: rest => (succ x).foldl (visit key) { w with queue := rest }

/-- The search from a node, after some rounds. -/
def after (x : ν) (n : ℕ) : Search ν κ := (round key succ)^[n] (start key x)

/-- The nodes reachable from a node. -/
def Reach : ν → ν → Prop := ReflTransGen fun x y => y ∈ succ x

/-- The keys of the reachable nodes. -/
def reachedKeys (x₀ : ν) : Set κ := {k | ∃ x, Reach succ x₀ x ∧ key x = k}

variable {key succ} {w : Search ν κ} {x y x₀ : ν} {n : ℕ}

/-! ## One successor -/

variable (key) in
theorem visit_cases (w : Search ν κ) (y : ν) :
    (key y ∈ w.visited ∧ visit key w y = w) ∨
      (key y ∉ w.visited ∧ visit key w y =
        { queue := w.queue ++ [y], visited := insert (key y) w.visited }) := by
  unfold visit
  split
  · rename_i hseen
    exact Or.inl ⟨hseen, rfl⟩
  · rename_i hnew
    exact Or.inr ⟨hnew, rfl⟩

variable (key) in
theorem visited_subset_visit (w : Search ν κ) (y : ν) :
    w.visited ⊆ (visit key w y).visited := by
  rcases visit_cases key w y with ⟨-, heq⟩ | ⟨-, heq⟩
  · rw [heq]
  · rw [heq]
    exact Finset.subset_insert _ _

variable (key) in
theorem queue_subset_visit (w : Search ν κ) (y : ν) : w.queue ⊆ (visit key w y).queue := by
  rcases visit_cases key w y with ⟨-, heq⟩ | ⟨-, heq⟩
  · rw [heq]
    exact List.Subset.refl _
  · rw [heq]
    exact List.subset_append_left _ _

theorem key_mem_visit (w : Search ν κ) (y : ν) : key y ∈ (visit key w y).visited := by
  rcases visit_cases key w y with ⟨hseen, heq⟩ | ⟨-, heq⟩
  · rw [heq]
    exact hseen
  · rw [heq]
    exact Finset.mem_insert_self _ _

variable (key) in
/-- A key is visited as its node is queued. -/
theorem card_visit (w : Search ν κ) (y : ν) :
    (visit key w y).visited.card + w.queue.length =
      w.visited.card + (visit key w y).queue.length := by
  rcases visit_cases key w y with ⟨-, heq⟩ | ⟨hnew, heq⟩
  · rw [heq]
  · rw [heq, Finset.card_insert_of_notMem hnew, List.length_append, List.length_singleton]
    omega

/-! ## All successors -/

theorem visited_subset_foldl (w : Search ν κ) (ys : List ν) :
    w.visited ⊆ (ys.foldl (visit key) w).visited := by
  induction ys generalizing w with
  | nil => exact Finset.Subset.refl _
  | cons y ys ih => exact Finset.Subset.trans (visited_subset_visit key w y) (ih _)

theorem key_mem_foldl (w : Search ν κ) {ys : List ν} (hy : y ∈ ys) :
    key y ∈ (ys.foldl (visit key) w).visited := by
  induction ys generalizing w with
  | nil => cases hy
  | cons z ys ih =>
    rcases List.mem_cons.1 hy with rfl | hy
    · exact visited_subset_foldl _ ys (key_mem_visit w y)
    · exact ih _ hy

variable (key) in
theorem card_foldl (w : Search ν κ) (ys : List ν) :
    (ys.foldl (visit key) w).visited.card + w.queue.length =
      w.visited.card + (ys.foldl (visit key) w).queue.length := by
  induction ys generalizing w with
  | nil => rfl
  | cons y ys ih =>
    have hvisit := card_visit key w y
    have hrest := ih (visit key w y)
    rw [List.foldl_cons]
    omega

/-! ## The invariant -/

variable (key succ x₀) in
/-- What a search knows. It may be in the middle of a round, with nodes
under way whose successors are not all visited. -/
structure Explores (underway : ν → Prop) (w : Search ν κ) : Prop where
  start : key x₀ ∈ w.visited
  reach : ∀ x ∈ w.queue, Reach succ x₀ x
  node : ∀ k ∈ w.visited, ∃ x, Reach succ x₀ x ∧ key x = k ∧
    (x ∈ w.queue ∨ underway x ∨ ∀ y ∈ succ x, key y ∈ w.visited)

variable {underway : ν → Prop}

omit [DecidableEq κ] in
theorem explores_start : Explores key succ x₀ (fun _ => False) (start key x₀) where
  start := Finset.mem_singleton_self _
  reach x hx := by
    obtain rfl := List.mem_singleton.1 hx
    exact .refl
  node k hk := by
    obtain rfl := Finset.mem_singleton.1 hk
    exact ⟨x₀, .refl, rfl, Or.inl (List.mem_singleton_self _)⟩

theorem Explores.visit (h : Explores key succ x₀ underway w) (hy : Reach succ x₀ y) :
    Explores key succ x₀ underway (w.visit key y) := by
  have hvisited := visited_subset_visit key w y
  have hqueue := queue_subset_visit key w y
  refine ⟨hvisited h.start, fun x hx => ?_, fun k hk => ?_⟩
  · rcases visit_cases key w y with ⟨-, heq⟩ | ⟨-, heq⟩
    · rw [heq] at hx
      exact h.reach x hx
    · rw [heq] at hx
      rcases List.mem_append.1 hx with hx | hx
      · exact h.reach x hx
      · obtain rfl := List.mem_singleton.1 hx
        exact hy
  · -- an old key keeps its node, and a new one is the queued successor's
    by_cases hold : k ∈ w.visited
    · obtain ⟨x, hx, hkey, hqueued | hunder | hclosed⟩ := h.node k hold
      · exact ⟨x, hx, hkey, Or.inl (hqueue hqueued)⟩
      · exact ⟨x, hx, hkey, Or.inr (Or.inl hunder)⟩
      · exact ⟨x, hx, hkey, Or.inr (Or.inr fun z hz => hvisited (hclosed z hz))⟩
    · rcases visit_cases key w y with ⟨-, heq⟩ | ⟨-, heq⟩
      · rw [heq] at hk
        exact absurd hk hold
      · rw [heq] at hk ⊢
        rcases Finset.mem_insert.1 hk with rfl | hk
        · exact ⟨y, hy, rfl, Or.inl (List.mem_append_right _ (List.mem_singleton_self _))⟩
        · exact absurd hk hold

theorem Explores.foldl (h : Explores key succ x₀ underway w) {ys : List ν}
    (hys : ∀ y ∈ ys, Reach succ x₀ y) :
    Explores key succ x₀ underway (ys.foldl (Search.visit key) w) := by
  induction ys generalizing w with
  | nil => exact h
  | cons y ys ih =>
    obtain ⟨hy, hys⟩ := List.forall_mem_cons.1 hys
    exact ih (h.visit hy) hys

/-- **A round explores one node.** While it lasts that node is under way. -/
theorem Explores.round (h : Explores key succ x₀ (fun _ => False) w) :
    Explores key succ x₀ (fun _ => False) (w.round key succ) := by
  unfold Search.round
  split
  · exact h
  · rename_i x rest hqueue
    have hx : Reach succ x₀ x := h.reach x (by rw [hqueue]; exact List.mem_cons_self)
    -- taking the node off the queue leaves it under way
    have htaken : Explores key succ x₀ (· = x) { w with queue := rest } := by
      refine ⟨h.start, fun z hz => h.reach z (by rw [hqueue]; exact List.mem_cons_of_mem _ hz),
        fun k hk => ?_⟩
      obtain ⟨z, hz, hkey, hqueued | hunder | hclosed⟩ := h.node k hk
      · rw [hqueue] at hqueued
        rcases List.mem_cons.1 hqueued with rfl | hrest
        · exact ⟨z, hz, hkey, Or.inr (Or.inl rfl)⟩
        · exact ⟨z, hz, hkey, Or.inl hrest⟩
      · exact hunder.elim
      · exact ⟨z, hz, hkey, Or.inr (Or.inr hclosed)⟩
    have hsucc : ∀ y ∈ succ x, Reach succ x₀ y := fun y hy => hx.tail hy
    have hround := htaken.foldl hsucc
    refine ⟨hround.start, hround.reach, fun k hk => ?_⟩
    obtain ⟨z, hz, hkey, hqueued | rfl | hclosed⟩ := hround.node k hk
    · exact ⟨z, hz, hkey, Or.inl hqueued⟩
    · exact ⟨z, hz, hkey, Or.inr (Or.inr fun y hy => key_mem_foldl _ hy)⟩
    · exact ⟨z, hz, hkey, Or.inr (Or.inr hclosed)⟩

/-! ## Whole searches -/

theorem after_succ (n : ℕ) : after key succ x₀ (n + 1) = (after key succ x₀ n).round key succ :=
  Function.iterate_succ_apply' ..

variable (key succ x₀) in
theorem explores_after (n : ℕ) :
    Explores key succ x₀ (fun _ => False) (after key succ x₀ n) := by
  induction n with
  | zero => exact explores_start
  | succ n ih =>
    rw [after_succ]
    exact ih.round

/-- A search visits keys of reachable nodes only. -/
theorem visited_subset_reachedKeys (n : ℕ) :
    ((after key succ x₀ n).visited : Set κ) ⊆ reachedKeys key succ x₀ := by
  intro k hk
  obtain ⟨x, hx, hkey, -⟩ := (explores_after key succ x₀ n).node k hk
  exact ⟨x, hx, hkey⟩

/-- Until its queue is empty, a search takes one node each round, and every
key it visited is of a node it took or has queued. -/
theorem card_visited (hbusy : ∀ m < n, (after key succ x₀ m).queue ≠ []) :
    (after key succ x₀ n).visited.card = n + (after key succ x₀ n).queue.length := by
  induction n with
  | zero => rfl
  | succ n ih =>
    have hcard := ih fun m hm => hbusy m (by omega)
    rw [after_succ]
    unfold round
    split
    · rename_i hqueue
      exact absurd hqueue (hbusy n (Nat.lt_succ_self n))
    · rename_i x rest hqueue
      have hround := card_foldl key { after key succ x₀ n with queue := rest } (succ x)
      rw [hqueue, List.length_cons] at hcard
      dsimp only at hround
      omega

/-- A search that ends does so after one round for each key it visited. -/
theorem rounds_eq_card (hbusy : ∀ m < n, (after key succ x₀ m).queue ≠ [])
    (hdone : (after key succ x₀ n).queue = []) : n = (after key succ x₀ n).visited.card := by
  rw [card_visited hbusy, hdone]
  rfl

variable (key succ x₀) in
/-- Nodes with one key have successors with the same keys. -/
def Congruent : Prop :=
  ∀ x y, Reach succ x₀ x → Reach succ x₀ y → key x = key y →
    ∀ x' ∈ succ x, ∃ y' ∈ succ y, key y' = key x'

/-- **A search that ends has visited every key.** -/
theorem visited_of_done (hcongr : Congruent key succ x₀)
    (hdone : (after key succ x₀ n).queue = []) :
    ((after key succ x₀ n).visited : Set κ) = reachedKeys key succ x₀ := by
  have hexplores := explores_after key succ x₀ n
  refine Set.Subset.antisymm (visited_subset_reachedKeys n) ?_
  rintro k ⟨x, hx, rfl⟩
  induction hx with
  | refl => exact hexplores.start
  | @tail x y hx hy ih =>
    -- the successors of the node that stands for its key are visited
    obtain ⟨z, hz, hkey, hqueued | hunder | hclosed⟩ := hexplores.node (key x) ih
    · rw [hdone] at hqueued
      cases hqueued
    · exact hunder.elim
    · obtain ⟨z', hz', hkey'⟩ := hcongr x z hx hz hkey.symm y hy
      have hvisited := hclosed z' hz'
      rw [hkey'] at hvisited
      exact hvisited

/-- With finitely many keys to visit, a search ends. -/
theorem exists_done_of_finite (h : (reachedKeys key succ x₀).Finite) :
    ∃ n, (after key succ x₀ n).queue = [] := by
  by_contra hnever
  have hbusy : ∀ m, (after key succ x₀ m).queue ≠ [] := fun m hm => hnever ⟨m, hm⟩
  -- one round more than there are keys
  have hcard := card_visited (n := h.toFinset.card + 1) fun m _ => hbusy m
  have hle : (after key succ x₀ (h.toFinset.card + 1)).visited.card ≤ h.toFinset.card :=
    Finset.card_le_card fun k hk => h.mem_toFinset.2 (visited_subset_reachedKeys _ hk)
  omega

/-- **A search ends exactly where its keys are finitely many.** -/
theorem exists_done_iff_finite (hcongr : Congruent key succ x₀) :
    (∃ n, (after key succ x₀ n).queue = []) ↔ (reachedKeys key succ x₀).Finite := by
  constructor
  · rintro ⟨n, hdone⟩
    rw [← visited_of_done hcongr hdone]
    exact Finset.finite_toSet _
  · exact exists_done_of_finite

end Search

end NhpSba
