import NhpSba.Common.Behaviour
/-!
# Variables that only record

A system may have variables beside those of another that record what
happened and restrict nothing (`History`). Without them its behaviours are
those of the other, and each of these has one (`History.map`,
`History.lift`); and fairness carries over where an action can be taken,
and is taken, on both sides at once (`History.weaklyFair_iff`).
-/

namespace NhpSba

namespace System

variable {ι κ σ τ : Type*} {T : System ι σ} {U : System κ τ} {f : τ → σ}

variable (T U f) in
/-- `U` is `T` with variables that record: `f` leaves them out. -/
structure History : Prop where
  init : ∀ t, U.Init t → T.Init (f t)
  exists_init : ∀ s, T.Init s → ∃ t, U.Init t ∧ f t = s
  step : ∀ t t', U.Step t t' → T.Step (f t) (f t')
  exists_step : ∀ t s', T.Step (f t) s' → ∃ t', U.Step t t' ∧ f t' = s'

namespace History

/-- Without the records a behaviour is one of the other system. -/
theorem map (h : History T U f) {b : ℕ → τ} (hb : U.Behaviour b) :
    T.Behaviour fun n => f (b n) where
  init := h.init _ hb.init
  next n := (hb.next n).imp (h.step _ _) (congrArg f)

/-- A state of the one system, and how it goes on to a next one of the
other. -/
theorem exists_next (h : History T U f) {b : ℕ → σ} (hb : T.Behaviour b) (n : ℕ) (t : τ)
    (ht : f t = b n) : ∃ t', f t' = b (n + 1) ∧ (U.Step t t' ∨ t' = t) := by
  rcases hb.next n with hstep | hsame
  · rw [← ht] at hstep
    obtain ⟨t', hstep', ht'⟩ := h.exists_step t _ hstep
    exact ⟨t', ht', Or.inl hstep'⟩
  · exact ⟨t, ht.trans hsame.symm, Or.inr rfl⟩

/-- **Every behaviour can be recorded.** The next state is chosen after the
one before it. -/
theorem lift (h : History T U f) {b : ℕ → σ} (hb : T.Behaviour b) :
    ∃ b' : ℕ → τ, U.Behaviour b' ∧ ∀ n, f (b' n) = b n := by
  obtain ⟨t₀, hinit, ht₀⟩ := h.exists_init _ hb.init
  choose next hnext hstep using h.exists_next hb
  let recorded : (n : ℕ) → {t // f t = b n} := fun n =>
    Nat.rec ⟨t₀, ht₀⟩ (fun n t => ⟨next n t.1 t.2, hnext n t.1 t.2⟩) n
  refine ⟨fun n => (recorded n).1, ⟨hinit, fun n => ?_⟩, fun n => (recorded n).2⟩
  exact hstep n (recorded n).1 (recorded n).2

/-- **Fairness carries over**, both ways, for an action that is possible on
both sides at once and taken on both sides at once. -/
theorem weaklyFair_iff {A : σ → σ → Prop} {A' : τ → τ → Prop} {b : ℕ → τ} (hb : U.Behaviour b)
    (henabled : ∀ t, U.Reachable t → ((∃ s', Changes A (f t) s') ↔ ∃ t', Changes A' t t'))
    (htaken : ∀ t t', U.Reachable t → U.Step t t' → (Changes A (f t) (f t') ↔ Changes A' t t')) :
    WeaklyFair A (fun n => f (b n)) ↔ WeaklyFair A' b := by
  have hpossible : ∀ n, (∃ s', Changes A (f (b n)) s') ↔ ∃ t', Changes A' (b n) t' := fun n =>
    henabled _ (hb.reachable n)
  have hsteps : ∀ n, Changes A (f (b n)) (f (b (n + 1))) ↔ Changes A' (b n) (b (n + 1)) := by
    intro n
    rcases hb.next n with hstep | hsame
    · exact htaken _ _ (hb.reachable n) hstep
    · -- a step that changes nothing changes nothing on either side
      rw [hsame]
      exact iff_of_false (fun h => h.2 rfl) (fun h => h.2 rfl)
  simp only [WeaklyFair, hpossible, hsteps]

end History

end System

end NhpSba
