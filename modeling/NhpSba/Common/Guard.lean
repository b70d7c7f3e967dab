import NhpSba.Common.Machine
import Mathlib.Data.List.Induction
import Mathlib.Order.Lattice
/-!
# Replay guards

A guard is a machine that is shown keys at times, admits some of them, and
remembers keys so as not to admit them again. What it remembers and when it
forgets differ from guard to guard; what they are for is one law, that no
key is admitted twice within a window (`Windowed`). This file reduces that
law to a condition on single steps, that none forgets a key admitted less
than a window ago (`KeepsLive`), and says what a guard that meets it
remembers after any run (`retains_after`).

The history of admissions is kept beside the machine, since a guard need
not record when it admitted a key.
-/

namespace NhpSba

open Machine

/-- A machine that admits keys shown to it at times, with what it counts
as remembered. -/
structure Guard (σ ι ο κ T : Type*) where
  step : σ → ι → ο × σ
  key : ι → κ
  time : ι → T
  admitted : ο → Bool
  holds : σ → κ → Prop

namespace Guard

variable {σ ι ο κ T : Type*} (G : Guard σ ι ο κ T)

/-- The keys admitted in a run and the times they were admitted at. -/
def admissions (s : σ) (is : List ι) : List (κ × T) :=
  ((trace G.step s is).filter fun x => G.admitted x.2).map fun x => (G.key x.1, G.time x.1)

theorem admissions_concat (s : σ) (is : List ι) (i : ι) :
    G.admissions s (is ++ [i]) = G.admissions s is ++
      if G.admitted (G.step (after G.step s is) i).1 then [(G.key i, G.time i)] else [] := by
  simp only [admissions, trace_append, trace_cons, trace_nil, List.filter_append, List.map_append]
  split <;> simp_all

variable {G}

/-- An admission is a call of the run that was admitted. -/
theorem mem_admissions {s : σ} {is : List ι} {k : κ} {t : T} :
    (k, t) ∈ G.admissions s is ↔ ∃ pre i post, is = pre ++ i :: post ∧
      G.key i = k ∧ G.time i = t ∧ G.admitted (G.step (after G.step s pre) i).1 = true := by
  constructor
  · intro h
    obtain ⟨x, hx, hxk⟩ := List.mem_map.1 h
    obtain ⟨hx, hadm⟩ := List.mem_filter.1 hx
    obtain ⟨pre, post, hsplit, hout⟩ := exists_split_of_mem_trace hx
    obtain ⟨rfl, rfl⟩ := Prod.mk.inj hxk
    exact ⟨pre, x.1, post, hsplit, rfl, rfl, hout ▸ hadm⟩
  · rintro ⟨pre, i, post, rfl, rfl, rfl, hadm⟩
    refine List.mem_map.2 ⟨(i, (G.step (after G.step s pre) i).1), List.mem_filter.2 ⟨?_, hadm⟩, rfl⟩
    rw [trace_append, trace_cons]
    exact List.mem_append_right _ (List.mem_cons_self ..)

theorem admissions_append_subset {s : σ} {is js : List ι} {x : κ × T}
    (h : x ∈ G.admissions s is) : x ∈ G.admissions s (is ++ js) := by
  obtain ⟨pre, i, post, rfl, hk, ht, hadm⟩ := mem_admissions.1 h
  exact mem_admissions.2 ⟨pre, i, post ++ js, by simp, hk, ht, hadm⟩

/-! ## The window -/

variable [LinearOrder T] {w : T}

/-- A key is live when it was admitted at most a window before now. -/
def Live [Add T] (w : T) (hist : List (κ × T)) (now : T) (k : κ) : Prop :=
  ∃ t, (k, t) ∈ hist ∧ now ≤ t + w

variable (G w)

/-- **The law of a sliding window**: of two calls of a run that present
the same key and are both admitted, the later one comes more than a window
after the earlier one. -/
def Windowed [Add T] (s : σ) (is : List ι) : Prop :=
  (trace G.step s is).Pairwise fun a b => G.key a.1 = G.key b.1 →
    G.admitted a.2 = true → G.admitted b.2 = true → G.time a.1 + w < G.time b.1

/-- The calls of a run come at non-decreasing times. -/
def Timed (is : List ι) : Prop := is.Pairwise fun i j => G.time i ≤ G.time j

/-- A step keeps what is live: a live key that is remembered stays
remembered, and is refused if it is the one presented. -/
def KeepsLive [Add T] (hist : List (κ × T)) (s : σ) (i : ι) : Prop :=
  ∀ k, Live w hist (G.time i) k → G.holds s k →
    G.holds (G.step s i).2 k ∧ (G.key i = k → G.admitted (G.step s i).1 = false)

/-- Every step of a run keeps what is live when it comes. -/
def RunKeepsLive [Add T] (s : σ) (is : List ι) : Prop :=
  ∀ pre i post, is = pre ++ i :: post →
    G.KeepsLive w (G.admissions s pre) (after G.step s pre) i

/-- What a guard admits it remembers. -/
def Remembers : Prop :=
  ∀ s i, G.admitted (G.step s i).1 = true → G.holds (G.step s i).2 (G.key i)

variable {G w}

theorem Timed.left {is js : List ι} (h : G.Timed (is ++ js)) : G.Timed is :=
  (List.pairwise_append.1 h).1

theorem Timed.le_last {pre post : List ι} {i j : ι} (h : G.Timed (pre ++ j :: post))
    (hi : i ∈ pre) : G.time i ≤ G.time j :=
  (List.pairwise_append.1 h).2.2 i hi j (List.mem_cons_self ..)

variable [Add T]

theorem RunKeepsLive.left {s : σ} {is js : List ι} (h : G.RunKeepsLive w s (is ++ js)) :
    G.RunKeepsLive w s is := by
  rintro pre i post rfl
  exact h pre i (post ++ js) (by simp)

/-- **What a guard remembers after a run.** If each of its steps keeps
what is live then, at any time no call came after, every live key is
remembered. The induction takes the run's last call off. -/
theorem retains_after (hrem : G.Remembers) {s : σ} {is : List ι} (hkeep : G.RunKeepsLive w s is)
    {now : T} (hnow : ∀ i ∈ is, G.time i ≤ now) {k : κ}
    (hlive : Live w (G.admissions s is) now k) : G.holds (after G.step s is) k := by
  induction is using List.reverseRecOn with
  | nil =>
    obtain ⟨t, ht, -⟩ := hlive
    cases ht
  | append_singleton is i ih =>
    have hi : G.time i ≤ now := hnow i (by simp)
    obtain ⟨t, ht, hw⟩ := hlive
    rw [after_concat]
    rw [admissions_concat] at ht
    rcases List.mem_append.1 ht with hold | hnew
    · -- admitted before the last call: remembered then, and the last call keeps it
      have hheld := ih hkeep.left (fun j hj => hnow j (List.mem_append_left _ hj)) ⟨t, hold, hw⟩
      exact (hkeep is i [] rfl k ⟨t, hold, le_trans hi hw⟩ hheld).1
    · -- admitted by the last call
      split at hnew
      · rename_i hadm
        obtain ⟨rfl, rfl⟩ := Prod.mk.inj (List.mem_singleton.1 hnew)
        exact hrem _ _ hadm
      · cases hnew

/-- A live key is refused. -/
theorem not_admitted_of_live (hrem : G.Remembers) {s : σ} {pre post : List ι} {i : ι}
    (hkeep : G.RunKeepsLive w s (pre ++ i :: post)) (htimed : G.Timed (pre ++ i :: post))
    (hlive : Live w (G.admissions s pre) (G.time i) (G.key i)) :
    G.admitted (G.step (after G.step s pre) i).1 = false :=
  (hkeep pre i post rfl _ hlive
    (retains_after hrem hkeep.left (fun _ hj => htimed.le_last hj) hlive)).2 rfl

/-- **A guard whose steps keep what is live is a sliding window.** -/
theorem windowed_of_keepsLive (hrem : G.Remembers) {s : σ} {is : List ι}
    (hkeep : G.RunKeepsLive w s is) (htimed : G.Timed is) : G.Windowed w s is := by
  refine pairwise_trace fun pre i mid j post hsplit hkey hadm hadm' => ?_
  have hsplit' : is = (pre ++ i :: mid) ++ j :: post := by rw [hsplit]; simp
  rw [hsplit'] at hkeep htimed
  by_contra hle
  have hfalse := not_admitted_of_live hrem hkeep htimed
    ⟨G.time i, mem_admissions.2 ⟨pre, i, mid, rfl, hkey, rfl, hadm⟩, not_lt.1 hle⟩
  rw [hfalse] at hadm'
  cases hadm'

theorem Windowed.left {s : σ} {is js : List ι} (h : G.Windowed w s (is ++ js)) :
    G.Windowed w s is := by
  unfold Windowed at h
  rw [trace_append] at h
  exact (List.pairwise_append.1 h).1

/-- In a run that is a sliding window, the last call admits its key only
more than a window after every earlier admission of it. -/
theorem Windowed.lt_last {s : σ} {is : List ι} {i : ι} (h : G.Windowed w s (is ++ [i]))
    (hadm : G.admitted (G.step (after G.step s is) i).1 = true) {t : T}
    (ht : (G.key i, t) ∈ G.admissions s is) : t + w < G.time i := by
  obtain ⟨x, hx, hxk⟩ := List.mem_map.1 ht
  obtain ⟨hx, hxadm⟩ := List.mem_filter.1 hx
  obtain ⟨hkey, rfl⟩ := Prod.mk.inj hxk
  unfold Windowed at h
  rw [trace_append] at h
  exact (List.pairwise_append.1 h).2.2 x hx _ List.mem_cons_self hkey hxadm hadm

end Guard

end NhpSba
