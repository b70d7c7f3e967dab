import Mathlib.Data.Nat.Find
import NhpSba.Common.System
/-!
# Behaviours of a system, and fairness

A behaviour is an endless sequence of states: each step is one of the
system, or changes nothing. Weak fairness of an action asks that it be
taken where it could change the state from some point on for ever, and
strong fairness where it could again and again. This file has rules for
both sides of "leads to": a rank that every change lowers proves it
(`FairBehaviour.leadsTo_of_rank`), as does one that the changes of one fair
action lower (`WeaklyFair.exists_of_rank`), and two states that lead to each
other refute it (`exists_fair_alternating`).
-/

namespace NhpSba

namespace System

variable {ι σ : Type*} {T : System ι σ} {P Q : σ → Prop} {b : ℕ → σ} {s s' t : σ}

variable (T) in
/-- Some action leads from the one state to the other. -/
def Step (s s' : σ) : Prop := ∃ i, T.Next i s s'

/-- `⟨A⟩_vars`: a step of the action that changes the state. -/
def Changes (A : σ → σ → Prop) (s s' : σ) : Prop := A s s' ∧ s' ≠ s

variable (T) in
/-- `Init ∧ □[Next]_vars`. -/
structure Behaviour (b : ℕ → σ) : Prop where
  init : T.Init (b 0)
  next : ∀ n, T.Step (b n) (b (n + 1)) ∨ b (n + 1) = b n

/-- `WF_vars(A)`. -/
def WeaklyFair (A : σ → σ → Prop) (b : ℕ → σ) : Prop :=
  ∀ n, (∀ m, n ≤ m → ∃ s', Changes A (b m) s') → ∃ m, n ≤ m ∧ Changes A (b m) (b (m + 1))

/-- `SF_vars(A)`. -/
def StronglyFair (A : σ → σ → Prop) (b : ℕ → σ) : Prop :=
  (∀ n, ∃ m, n ≤ m ∧ ∃ s', Changes A (b m) s') →
    ∀ n, ∃ m, n ≤ m ∧ Changes A (b m) (b (m + 1))

variable (T) in
/-- `Init ∧ □[Next]_vars ∧ WF_vars(Next)`. -/
def FairBehaviour (b : ℕ → σ) : Prop := T.Behaviour b ∧ WeaklyFair T.Step b

/-- `P ~> Q`. -/
def LeadsTo (P Q : σ → Prop) (b : ℕ → σ) : Prop := ∀ n, P (b n) → ∃ m, n ≤ m ∧ Q (b m)

theorem Behaviour.reachable (h : T.Behaviour b) (n : ℕ) : T.Reachable (b n) := by
  induction n with
  | zero => exact Reachable.init h.init
  | succ n ih =>
    rcases h.next n with ⟨i, hnext⟩ | hsame
    · exact ih.step i hnext
    · rw [hsame]
      exact ih

/-- What never holds leads to anything. -/
theorem Behaviour.leadsTo_of_never (h : T.Behaviour b) (hnever : ∀ s, T.Reachable s → ¬ P s) :
    LeadsTo P Q b := by
  intro n hP
  exact absurd hP (hnever _ (h.reachable n))

/-! ## A rank that every change lowers -/

/-- Where something can always change, a behaviour fair to the system
comes to its next change, and stays as it is till then. -/
theorem exists_next_change (hb : T.FairBehaviour b) (n : ℕ)
    (henabled : ∃ s', Changes T.Step (b n) s') :
    ∃ m, n ≤ m ∧ b m = b n ∧ Changes T.Step (b n) (b (m + 1)) := by
  obtain ⟨hbehaviour, hfair⟩ := hb
  have hchange : ∃ k, b (n + k + 1) ≠ b (n + k) := by
    by_contra hnone
    push Not at hnone
    have hconst : ∀ k, b (n + k) = b n := by
      intro k
      induction k with
      | zero => rfl
      | succ k ih => exact (hnone k).trans ih
    have hforever : ∀ m, n ≤ m → ∃ s', Changes T.Step (b m) s' := by
      intro m hm
      obtain ⟨k, rfl⟩ := Nat.exists_eq_add_of_le hm
      rw [hconst k]
      exact henabled
    obtain ⟨m, hm, -, hne⟩ := hfair n hforever
    obtain ⟨k, rfl⟩ := Nat.exists_eq_add_of_le hm
    exact hne (hnone k)
  -- the first of the changes
  classical
  have hstay : ∀ j, j ≤ Nat.find hchange → b (n + j) = b n := by
    intro j
    induction j with
    | zero => exact fun _ => rfl
    | succ j ih =>
      intro hj
      have hsame : b (n + j + 1) = b (n + j) := by
        by_contra hne
        exact Nat.find_min hchange (by omega : j < Nat.find hchange) hne
      exact hsame.trans (ih (by omega))
  have hspec := Nat.find_spec hchange
  have hfirst := hstay _ le_rfl
  refine ⟨n + Nat.find hchange, by omega, hfirst, ?_⟩
  rw [hfirst] at hspec
  refine ⟨?_, hspec⟩
  rcases hbehaviour.next (n + Nat.find hchange) with hstep | hsame
  · rwa [hfirst] at hstep
  · exact absurd (hsame.trans hfirst) hspec

/-- **A rank proves "leads to".** Where short of the goal the system can
always change, and each change reaches the goal or lowers the rank, every
behaviour fair to the system gets there. The induction is on the rank. -/
theorem FairBehaviour.leadsTo_of_rank (rank : σ → ℕ)
    (henabled : ∀ s, T.Reachable s → P s → ∃ s', Changes T.Step s s')
    (hstep : ∀ s s', T.Reachable s → P s → Changes T.Step s s' →
      Q s' ∨ P s' ∧ rank s' < rank s) (hb : T.FairBehaviour b) : LeadsTo P Q b := by
  have hrank : ∀ r n, rank (b n) = r → P (b n) → ∃ m, n ≤ m ∧ Q (b m) := by
    intro r
    induction r using Nat.strong_induction_on with
    | h r ih =>
      intro n hr hP
      have hreach := hb.1.reachable n
      obtain ⟨m, hm, -, hchange⟩ := exists_next_change hb n (henabled _ hreach hP)
      rcases hstep _ _ hreach hP hchange with hQ | ⟨hP', hlower⟩
      · exact ⟨m + 1, by omega, hQ⟩
      · obtain ⟨k, hk, hQ⟩ := ih _ (hr ▸ hlower) (m + 1) rfl hP'
        exact ⟨k, by omega, hQ⟩
  intro n
  exact hrank _ n rfl

/-! ## One fair action -/

variable {A : σ → σ → Prop}

/-- **A fair action is taken often enough.** From some point on, short of
the goal, the action stays possible, no step raises the rank, and the
action lowers it. -/
theorem WeaklyFair.exists_of_rank (hfair : WeaklyFair A b) (rank : σ → ℕ) {N : ℕ}
    (henabled : ∀ n, N ≤ n → P (b n) → ∃ s', Changes A (b n) s')
    (hstep : ∀ n, N ≤ n → P (b n) → Q (b (n + 1)) ∨
      P (b (n + 1)) ∧ rank (b (n + 1)) ≤ rank (b n) ∧
        (Changes A (b n) (b (n + 1)) → rank (b (n + 1)) < rank (b n)))
    {n : ℕ} (hn : N ≤ n) (hP : P (b n)) : ∃ m, n ≤ m ∧ Q (b m) := by
  induction hr : rank (b n) using Nat.strong_induction_on generalizing n with
  | h r ih =>
    by_contra hnever
    -- so it stays short of the goal, and the rank does not rise
    have hstays : ∀ k, P (b (n + k)) ∧ rank (b (n + k)) ≤ r := by
      intro k
      induction k with
      | zero => exact ⟨hP, le_of_eq hr⟩
      | succ k ihk =>
        rcases hstep (n + k) (by omega) ihk.1 with hQ | ⟨hP', hle, -⟩
        · exact absurd ⟨n + k + 1, by omega, hQ⟩ hnever
        · exact ⟨hP', le_trans hle ihk.2⟩
    obtain ⟨m, hm, htaken⟩ := hfair n fun m hm => by
      obtain ⟨k, rfl⟩ := Nat.exists_eq_add_of_le hm
      exact henabled (n + k) (by omega) (hstays k).1
    obtain ⟨k, rfl⟩ := Nat.exists_eq_add_of_le hm
    rcases hstep (n + k) (by omega) (hstays k).1 with hQ | ⟨hP', -, hlower⟩
    · exact hnever ⟨n + k + 1, by omega, hQ⟩
    · have hlt := lt_of_lt_of_le (hlower htaken) (hstays k).2
      obtain ⟨m, hm, hQ⟩ := ih _ hlt (by omega) hP' rfl
      exact hnever ⟨m, by omega, hQ⟩

/-- An action that is impossible again and again is weakly fair. -/
theorem weaklyFair_of_disabled (h : ∀ n, ∃ m, n ≤ m ∧ ∀ s', ¬ Changes A (b m) s') :
    WeaklyFair A b := by
  intro n henabled
  obtain ⟨m, hm, hnone⟩ := h n
  obtain ⟨s', hs'⟩ := henabled m hm
  exact absurd hs' (hnone s')

/-- And one that is impossible from some point on is strongly fair. -/
theorem stronglyFair_of_disabled {N : ℕ} (h : ∀ n, N ≤ n → ∀ s', ¬ Changes A (b n) s') :
    StronglyFair A b := by
  intro henabled
  obtain ⟨m, hm, s', hs'⟩ := henabled N
  exact absurd hs' (h m hm s')

/-! ## Two states that lead to each other -/

/-- A run that leads to the start of an endless tail is the beginning of a
behaviour with that tail. -/
theorem Reachable.exists_behaviour (h : T.Reachable s) (tail : ℕ → σ) (hstart : tail 0 = s)
    (htail : ∀ n, T.Step (tail n) (tail (n + 1)) ∨ tail (n + 1) = tail n) :
    ∃ b, T.Behaviour b ∧ ∃ N, ∀ n, b (N + n) = tail n := by
  obtain ⟨ts, hts⟩ := h
  induction hts generalizing tail with
  | init hs => exact ⟨tail, ⟨hstart ▸ hs, htail⟩, 0, fun n => by rw [Nat.zero_add]⟩
  | @step _ s s' _ i hnext ih =>
    -- one state is put before the tail
    let longer : ℕ → σ := fun n => Nat.casesOn n s tail
    have hlonger : ∀ n, T.Step (longer n) (longer (n + 1)) ∨ longer (n + 1) = longer n := by
      intro n
      cases n with
      | zero =>
        subst hstart
        exact Or.inl ⟨i, hnext⟩
      | succ n => exact htail n
    obtain ⟨b, hb, N, hN⟩ := ih longer rfl hlonger
    refine ⟨b, hb, N + 1, fun n => ?_⟩
    rw [Nat.add_assoc, Nat.add_comm 1 n]
    exact hN (n + 1)

/-- The one state, the other, the one again, and so on. -/
def alternate (s t : σ) (n : ℕ) : σ := if n % 2 = 0 then s else t

theorem alternate_even (s t : σ) (n : ℕ) : alternate s t (2 * n) = s :=
  if_pos (Nat.mul_mod_right 2 n)

theorem alternate_odd (s t : σ) (n : ℕ) : alternate s t (2 * n + 1) = t :=
  if_neg (by omega)

theorem alternate_eq_or (s t : σ) (n : ℕ) :
    alternate s t n = s ∧ alternate s t (n + 1) = t ∨
      alternate s t n = t ∧ alternate s t (n + 1) = s := by
  unfold alternate
  rcases Nat.mod_two_eq_zero_or_one n with hn | hn
  · rw [if_pos hn, if_neg (by omega)]
    exact Or.inl ⟨rfl, rfl⟩
  · rw [if_neg (by omega), if_pos (by omega)]
    exact Or.inr ⟨rfl, rfl⟩

/-- **Two states that lead to each other** are the end of a behaviour that
is fair to the system: each of its steps there changes the state. -/
theorem exists_fair_alternating (h : T.Reachable s) (hst : T.Step s t) (hts : T.Step t s)
    (hne : s ≠ t) :
    ∃ b, T.FairBehaviour b ∧ ∃ N, b N = s ∧ ∀ n, N ≤ n → b n = s ∨ b n = t := by
  have hchange : ∀ n, Changes T.Step (alternate s t n) (alternate s t (n + 1)) := by
    intro n
    rcases alternate_eq_or s t n with ⟨hn, hn'⟩ | ⟨hn, hn'⟩
    · rw [hn, hn']
      exact ⟨hst, hne.symm⟩
    · rw [hn, hn']
      exact ⟨hts, hne⟩
  obtain ⟨b, hb, N, hN⟩ := h.exists_behaviour (alternate s t) rfl
    fun n => Or.inl (hchange n).1
  refine ⟨b, ⟨hb, fun n _ => ⟨N + n, by omega, ?_⟩⟩, N, hN 0, fun n hn => ?_⟩
  · rw [Nat.add_assoc, hN n, hN (n + 1)]
    exact hchange n
  · obtain ⟨k, rfl⟩ := Nat.exists_eq_add_of_le hn
    rw [hN k]
    rcases alternate_eq_or s t k with ⟨hk, -⟩ | ⟨hk, -⟩
    · exact Or.inl hk
    · exact Or.inr hk

/-- So what holds in one of them, and leads to what holds in neither, does
not always lead to it. -/
theorem exists_fair_not_leadsTo (h : T.Reachable s) (hst : T.Step s t) (hts : T.Step t s)
    (hne : s ≠ t) (hP : P s) (hs : ¬ Q s) (ht : ¬ Q t) :
    ∃ b, T.FairBehaviour b ∧ ¬ LeadsTo P Q b := by
  obtain ⟨b, hb, N, hN, hrest⟩ := exists_fair_alternating h hst hts hne
  refine ⟨b, hb, fun hleads => ?_⟩
  obtain ⟨m, hm, hQ⟩ := hleads N (hN.symm ▸ hP)
  rcases hrest m hm with heq | heq
  · exact hs (heq ▸ hQ)
  · exact ht (heq ▸ hQ)

end System

end NhpSba
