import NhpSba.Common.Worklist
/-!
# What a first-in first-out search takes

The queue of a search moves up by one node a round, so what is queued is
taken (`exists_taken_of_mem`), and every reachable key is taken at some
round, whether or not the search ever ends (`exists_taken`), and at no
other (`eq_of_taken`). Where a successor lies one deeper the queue is in
order of depth, so a key is taken at the least depth at which it is reached
(`depth_taken_le`).
-/

namespace NhpSba

open Relation

namespace Search

variable {ν κ : Type*} [DecidableEq κ] {key : ν → κ} {succ : ν → List ν} {w : Search ν κ}
  {x y z x₀ : ν} {n m : ℕ} {k : κ}

/-! ## One round -/

variable (key) in
/-- **What a round queues**: successors whose keys are new and differ, and
one for each key that it visits. -/
theorem queue_foldl (w : Search ν κ) (ys : List ν) :
    ∃ news, (ys.foldl (visit key) w).queue = w.queue ++ news ∧ (news.map key).Nodup ∧
      (∀ y ∈ news, y ∈ ys ∧ key y ∉ w.visited) ∧
      ∀ k ∈ (ys.foldl (visit key) w).visited, k ∈ w.visited ∨ ∃ y ∈ news, key y = k := by
  induction ys generalizing w with
  | nil => exact ⟨[], (List.append_nil _).symm, List.nodup_nil,
      fun y hy => (List.not_mem_nil hy).elim, fun k hk => Or.inl hk⟩
  | cons y ys ih =>
    obtain ⟨news, hqueue, hnodup, hnews, hvisited⟩ := ih (visit key w y)
    rw [List.foldl_cons]
    rcases visit_cases key w y with ⟨-, heq⟩ | ⟨hnew, heq⟩
    · rw [heq] at hqueue hnews hvisited ⊢
      exact ⟨news, hqueue, hnodup,
        fun z hz => ⟨List.mem_cons_of_mem _ (hnews z hz).1, (hnews z hz).2⟩, hvisited⟩
    · rw [heq] at hqueue hnews hvisited ⊢
      refine ⟨y :: news, ?_, ?_, fun z hz => ?_, fun k hk => ?_⟩
      · rw [hqueue, List.append_assoc, List.singleton_append]
      · refine List.nodup_cons.2 ⟨fun hmem => ?_, hnodup⟩
        obtain ⟨z, hz, hkey⟩ := List.mem_map.1 hmem
        exact (hnews z hz).2 (by rw [hkey]; exact Finset.mem_insert_self _ _)
      · rcases List.mem_cons.1 hz with rfl | hz
        · exact ⟨List.mem_cons_self, hnew⟩
        · obtain ⟨hmem, hunseen⟩ := hnews z hz
          exact ⟨List.mem_cons_of_mem _ hmem,
            fun hseen => hunseen (Finset.mem_insert_of_mem hseen)⟩
      · rcases hvisited k hk with hold | ⟨z, hz, hkey⟩
        · rcases Finset.mem_insert.1 hold with rfl | hold
          · exact Or.inr ⟨y, List.mem_cons_self, rfl⟩
          · exact Or.inl hold
        · exact Or.inr ⟨z, List.mem_cons_of_mem _ hz, hkey⟩

theorem round_cons {rest : List ν} (hqueue : w.queue = x :: rest) :
    w.round key succ = (succ x).foldl (visit key) { w with queue := rest } := by
  rw [round, hqueue]

variable (key succ) in
/-- The queue moves up. -/
theorem queue_round {rest : List ν} (hqueue : w.queue = x :: rest) :
    ∃ news, (w.round key succ).queue = rest ++ news ∧ (news.map key).Nodup ∧
      ∀ y ∈ news, y ∈ succ x ∧ key y ∉ w.visited := by
  obtain ⟨news, hnext, hnodup, hnews, -⟩ := queue_foldl key { w with queue := rest } (succ x)
  exact ⟨news, by rw [round_cons hqueue, hnext], hnodup, hnews⟩

variable (key succ) in
theorem visited_subset_round (w : Search ν κ) : w.visited ⊆ (w.round key succ).visited := by
  unfold round
  split
  · exact Finset.Subset.refl _
  · rename_i x rest hqueue
    exact visited_subset_foldl { w with queue := rest } (succ x)

/-! ## What is taken -/

variable (key succ x₀) in
/-- The node that the next round takes, after some. -/
def taken (n : ℕ) : Option ν := (after key succ x₀ n).queue.head?

theorem mem_of_taken (h : taken key succ x₀ n = some x) : x ∈ (after key succ x₀ n).queue :=
  List.mem_of_head? h

/-- A queued node is taken after as many rounds as there are nodes before
it. -/
theorem taken_add {i : ℕ} (h : (after key succ x₀ n).queue[i]? = some x) :
    taken key succ x₀ (n + i) = some x := by
  induction i generalizing n with
  | zero => rw [taken, List.head?_eq_getElem?]; exact h
  | succ i ih =>
    rcases hqueue : (after key succ x₀ n).queue with _ | ⟨y, rest⟩
    · rw [hqueue] at h
      cases h
    · rw [hqueue, List.getElem?_cons_succ] at h
      obtain ⟨news, hnext, -⟩ := queue_round key succ hqueue
      have hrest : (after key succ x₀ (n + 1)).queue[i]? = some x := by
        rw [after_succ, hnext]
        obtain ⟨hi, -⟩ := List.getElem?_eq_some_iff.1 h
        rw [List.getElem?_append_left hi]
        exact h
      rw [show n + (i + 1) = n + 1 + i by omega]
      exact ih hrest

/-- **What is queued is taken.** -/
theorem exists_taken_of_mem (h : x ∈ (after key succ x₀ n).queue) :
    ∃ m, taken key succ x₀ m = some x := by
  obtain ⟨i, hi⟩ := List.mem_iff_getElem?.1 h
  exact ⟨n + i, taken_add hi⟩

/-- What is visited is taken, by a node that stands for it. -/
theorem exists_taken_of_visited (h : k ∈ (after key succ x₀ n).visited) :
    ∃ m x, taken key succ x₀ m = some x ∧ key x = k := by
  induction n with
  | zero =>
    obtain rfl := Finset.mem_singleton.1 h
    exact ⟨0, x₀, rfl, rfl⟩
  | succ n ih =>
    rcases hqueue : (after key succ x₀ n).queue with _ | ⟨y, rest⟩
    · rw [after_succ, round, hqueue] at h
      exact ih h
    · rw [after_succ, round_cons hqueue] at h
      obtain ⟨news, hnext, -, -, hvisited⟩ :=
        queue_foldl key { after key succ x₀ n with queue := rest } (succ y)
      rcases hvisited k h with hold | ⟨z, hz, hkey⟩
      · exact ih hold
      · have hmem : z ∈ (after key succ x₀ (n + 1)).queue := by
          rw [after_succ, round_cons hqueue, hnext]
          exact List.mem_append_right _ hz
        obtain ⟨m, hm⟩ := exists_taken_of_mem hmem
        exact ⟨m, z, hm, hkey⟩

/-- **A search is complete** even where it never ends: every reachable key
is taken at some round. -/
theorem exists_taken (hcongr : Congruent key succ x₀) (hx : Reach succ x₀ x) :
    ∃ n y, taken key succ x₀ n = some y ∧ key y = key x := by
  have hvisited : ∃ n, key x ∈ (after key succ x₀ n).visited := by
    induction hx with
    | refl => exact ⟨0, Finset.mem_singleton_self _⟩
    | @tail x y hx hy ih =>
      obtain ⟨n, hn⟩ := ih
      obtain ⟨m, z, hm, hkey⟩ := exists_taken_of_visited hn
      -- the round that takes the node for `x` visits the successors
      have hz : Reach succ x₀ z := (explores_after key succ x₀ m).reach z (mem_of_taken hm)
      obtain ⟨z', hz', hkey'⟩ := hcongr x z hx hz hkey.symm y hy
      obtain ⟨rest, hqueue⟩ := List.head?_eq_some_iff.1 hm
      refine ⟨m + 1, ?_⟩
      rw [after_succ, round_cons hqueue, ← hkey']
      exact key_mem_foldl _ hz'
  obtain ⟨n, hn⟩ := hvisited
  exact exists_taken_of_visited hn

/-! ## Each key is taken once -/

variable (key) in
/-- The queued nodes have different keys, all of them visited. -/
structure Distinct (w : Search ν κ) : Prop where
  nodup : (w.queue.map key).Nodup
  visited : ∀ x ∈ w.queue, key x ∈ w.visited

variable (key) in
/-- No more node with the key is queued, and none will be. -/
structure Gone (k : κ) (w : Search ν κ) : Prop where
  visited : k ∈ w.visited
  queue : ∀ x ∈ w.queue, key x ≠ k

theorem Distinct.round (h : Distinct key w) : Distinct key (w.round key succ) := by
  rcases hqueue : w.queue with _ | ⟨x, rest⟩
  · have hround : w.round key succ = w := by rw [Search.round, hqueue]
    rw [hround]
    exact h
  · obtain ⟨news, hnext, hnodup, hnews⟩ := queue_round key succ hqueue
    have hold := h.nodup
    rw [hqueue, List.map_cons, List.nodup_cons] at hold
    have hvisited : ∀ y ∈ rest, key y ∈ w.visited := fun y hy =>
      h.visited y (by rw [hqueue]; exact List.mem_cons_of_mem _ hy)
    constructor
    · rw [hnext, List.map_append]
      refine List.nodup_append'.2 ⟨hold.2, hnodup, fun k hk hk' => ?_⟩
      obtain ⟨y, hy, rfl⟩ := List.mem_map.1 hk
      obtain ⟨z, hz, hkey⟩ := List.mem_map.1 hk'
      exact (hnews z hz).2 (by rw [hkey]; exact hvisited y hy)
    · intro y hy
      rw [hnext] at hy
      rcases List.mem_append.1 hy with hy | hy
      · exact visited_subset_round key succ w (hvisited y hy)
      · rw [round_cons hqueue]
        exact key_mem_foldl _ (hnews y hy).1

theorem Gone.round (h : Gone key k w) : Gone key k (w.round key succ) := by
  refine ⟨visited_subset_round key succ w h.visited, fun y hy => ?_⟩
  rcases hqueue : w.queue with _ | ⟨x, rest⟩
  · rw [Search.round, hqueue] at hy
    exact h.queue y hy
  · obtain ⟨news, hnext, -, hnews⟩ := queue_round key succ hqueue
    rw [hnext] at hy
    rcases List.mem_append.1 hy with hy | hy
    · exact h.queue y (by rw [hqueue]; exact List.mem_cons_of_mem _ hy)
    · exact fun hkey => (hnews y hy).2 (by rw [hkey]; exact h.visited)

variable (key succ x₀) in
theorem distinct_after (n : ℕ) : Distinct key (after key succ x₀ n) := by
  induction n with
  | zero =>
    refine ⟨List.nodup_singleton _, fun x hx => ?_⟩
    obtain rfl := List.mem_singleton.1 hx
    exact Finset.mem_singleton_self _
  | succ n ih =>
    rw [after_succ]
    exact ih.round

/-- What is taken is gone. -/
theorem gone_of_taken (h : taken key succ x₀ n = some x) (i : ℕ) :
    Gone key (key x) (after key succ x₀ (n + 1 + i)) := by
  induction i with
  | zero =>
    obtain ⟨rest, hqueue⟩ := List.head?_eq_some_iff.1 h
    have hdistinct := distinct_after key succ x₀ n
    have hvisited : key x ∈ (after key succ x₀ n).visited :=
      hdistinct.visited x (mem_of_taken h)
    obtain ⟨news, hnext, -, hnews⟩ := queue_round key succ hqueue
    have hnodup := hdistinct.nodup
    rw [hqueue, List.map_cons, List.nodup_cons] at hnodup
    rw [Nat.add_zero, after_succ]
    refine ⟨visited_subset_round key succ _ hvisited, fun y hy hkey => ?_⟩
    rw [hnext] at hy
    rcases List.mem_append.1 hy with hy | hy
    · exact hnodup.1 (hkey ▸ List.mem_map_of_mem hy)
    · exact (hnews y hy).2 (by rw [hkey]; exact hvisited)
  | succ i ih =>
    rw [← Nat.add_assoc, after_succ]
    exact ih.round

/-- **No key is taken twice.** -/
theorem eq_of_taken (hn : taken key succ x₀ n = some x) (hm : taken key succ x₀ m = some y)
    (hkey : key x = key y) : n = m := by
  rcases Nat.lt_trichotomy n m with hlt | heq | hlt
  · obtain ⟨i, rfl⟩ := Nat.exists_eq_add_of_lt hlt
    rw [Nat.add_right_comm] at hm
    exact absurd hkey.symm ((gone_of_taken hn i).queue y (mem_of_taken hm))
  · exact heq
  · obtain ⟨i, rfl⟩ := Nat.exists_eq_add_of_lt hlt
    rw [Nat.add_right_comm] at hn
    exact absurd hkey ((gone_of_taken hm i).queue x (mem_of_taken hn))

/-! ## The order of depths -/

variable (succ x₀) in
/-- A successor lies one deeper. -/
structure Levels (depth : ν → ℕ) : Prop where
  start : depth x₀ = 0
  succ : ∀ x, ∀ y ∈ succ x, depth y = depth x + 1

variable {depth : ν → ℕ}

variable (key succ x₀ depth) in
/-- The queue is in order of depth, spans at most two depths, and has no
node whose key is reached at a lesser one. -/
structure Layered (w : Search ν κ) : Prop where
  sorted : w.queue.Pairwise fun x y => depth x ≤ depth y ∧ depth y ≤ depth x + 1
  least : ∀ x ∈ w.queue, ∀ z, Reach succ x₀ z → key z = key x → depth x ≤ depth z

/-- **What lies no deeper than the queue is visited.** -/
theorem Layered.visited (hlayered : Layered key succ x₀ depth w)
    (hexplores : Explores key succ x₀ (fun _ => False) w) (hcongr : Congruent key succ x₀)
    (hlevels : Levels succ x₀ depth) (hz : Reach succ x₀ z)
    (hdepth : ∀ x ∈ w.queue, depth z ≤ depth x) : key z ∈ w.visited := by
  induction hz with
  | refl => exact hexplores.start
  | @tail z z' hz hz' ih =>
    have hdeeper := hlevels.succ z z' hz'
    have hvisited : key z ∈ w.visited := ih fun x hx => by
      have hbound := hdepth x hx
      omega
    obtain ⟨x, hx, hkey, hqueued | hunder | hclosed⟩ := hexplores.node (key z) hvisited
    · -- a queued node for `z` would lie less deep than `z'`
      have hleast := hlayered.least x hqueued z hz hkey.symm
      have hbound := hdepth x hqueued
      omega
    · exact hunder.elim
    · obtain ⟨x', hx', hkey'⟩ := hcongr z x hz hx hkey.symm z' hz'
      rw [← hkey']
      exact hclosed x' hx'

omit [DecidableEq κ] in
theorem layered_start (hlevels : Levels succ x₀ depth) :
    Layered key succ x₀ depth (start key x₀) where
  sorted := List.pairwise_singleton _ _
  least x hx z _ _ := by
    obtain rfl := List.mem_singleton.1 hx
    rw [hlevels.start]
    exact Nat.zero_le _

/-- **A round keeps the order.** -/
theorem Layered.round (hlayered : Layered key succ x₀ depth w)
    (hexplores : Explores key succ x₀ (fun _ => False) w) (hcongr : Congruent key succ x₀)
    (hlevels : Levels succ x₀ depth) : Layered key succ x₀ depth (w.round key succ) := by
  rcases hqueue : w.queue with _ | ⟨x, rest⟩
  · have hround : w.round key succ = w := by rw [Search.round, hqueue]
    rw [hround]
    exact hlayered
  · obtain ⟨news, hnext, -, hnews⟩ := queue_round key succ hqueue
    have hsorted := hlayered.sorted
    rw [hqueue, List.pairwise_cons] at hsorted
    obtain ⟨hfirst, hrest⟩ := hsorted
    -- the new nodes lie one deeper than the one that is taken
    have hdeeper : ∀ y ∈ news, depth y = depth x + 1 := fun y hy =>
      hlevels.succ x y (hnews y hy).1
    constructor
    · rw [hnext, List.pairwise_append]
      refine ⟨hrest, List.pairwise_of_forall_mem_list fun y hy y' hy' => ?_, fun y hy y' hy' => ?_⟩
      · have hdepth := hdeeper y hy
        have hdepth' := hdeeper y' hy'
        omega
      · have hdepth := hfirst y hy
        have hdepth' := hdeeper y' hy'
        omega
    · intro y hy z hz hkey
      rw [hnext] at hy
      rcases List.mem_append.1 hy with hy | hy
      · exact hlayered.least y (by rw [hqueue]; exact List.mem_cons_of_mem _ hy) z hz hkey
      · -- a node less deep than the new one would have been visited
        by_contra hless
        have hdepth := hdeeper y hy
        have hvisited : key z ∈ w.visited := by
          refine hlayered.visited hexplores hcongr hlevels hz fun v hv => ?_
          rw [hqueue] at hv
          rcases List.mem_cons.1 hv with rfl | hv
          · omega
          · have hbound := hfirst v hv
            omega
        rw [hkey] at hvisited
        exact (hnews y hy).2 hvisited

theorem layered_after (hcongr : Congruent key succ x₀) (hlevels : Levels succ x₀ depth) (n : ℕ) :
    Layered key succ x₀ depth (after key succ x₀ n) := by
  induction n with
  | zero => exact layered_start hlevels
  | succ n ih =>
    rw [after_succ]
    exact ih.round (explores_after key succ x₀ n) hcongr hlevels

/-- **A key is taken at its least depth.** -/
theorem depth_taken_le (hcongr : Congruent key succ x₀) (hlevels : Levels succ x₀ depth)
    (h : taken key succ x₀ n = some x) (hz : Reach succ x₀ z) (hkey : key z = key x) :
    depth x ≤ depth z :=
  (layered_after hcongr hlevels n).least x (mem_of_taken h) z hz hkey

end Search

end NhpSba
