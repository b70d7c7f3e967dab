import Mathlib.Data.Nat.Notation
import Mathlib.Logic.Function.Basic
/-!
# Code that mutates a state and may fail

`Fallible ε σ α` is a computation over a state `σ` that ends in an `α` or
in an error `ε`. What it wrote before failing stays written: this is how a
Python method that raises and a Rust `&mut self` method returning `Err`
behave, and it is what makes "a failed call changes nothing" a theorem
rather than a convention.
-/

namespace NhpSba

/-- A computation over a state that may fail, keeping its writes when it does. -/
abbrev Fallible (ε σ : Type) := ExceptT ε (StateM σ)

namespace Fallible

variable {ε ε' σ α β : Type}

/-- Run a computation from a state: its outcome, and the state it leaves. -/
def call (m : Fallible ε σ α) (s : σ) : Except ε α × σ := m.run.run s

/-- A computation that reads no state and writes none. -/
def lift (e : Except ε α) : Fallible ε σ α := ExceptT.mk (pure e)

/-- Read the state. -/
def read : Fallible ε σ σ := ExceptT.mk (fun s => (.ok s, s))

/-- Write the state. -/
def write (f : σ → σ) : Fallible ε σ Unit := ExceptT.mk (fun s => (.ok (), f s))

/-- Fail. -/
def raise (e : ε) : Fallible ε σ α := ExceptT.mk (fun s => (.error e, s))

/-- Run a computation and hand its failure over as a value when `select`
recognises it; any other failure escapes. -/
def attempt (select : ε → Option ε') (m : Fallible ε σ α) : Fallible ε σ (Except ε' α) :=
  ExceptT.mk fun s =>
    match call m s with
    | (.ok a, s') => (.ok (.ok a), s')
    | (.error e, s') =>
      match select e with
      | some e' => (.ok (.error e'), s')
      | none => (.error e, s')

/-- Report a failure in other terms. -/
def mapError (f : ε → ε') (m : Fallible ε σ α) : Fallible ε' σ α :=
  ExceptT.mk fun s => ((call m s).1.mapError f, (call m s).2)

/-- Lend the first `n` elements of a buffer, as a slice, and keep the rest. -/
def onFront (n : ℕ) (m : Fallible ε (List α) β) : Fallible ε (List α) β :=
  ExceptT.mk fun xs => ((call m (xs.take n)).1, (call m (xs.take n)).2 ++ xs.drop n)

@[simp] theorem call_pure (a : α) (s : σ) : call (pure a : Fallible ε σ α) s = (.ok a, s) := rfl

@[simp] theorem call_lift (e : Except ε α) (s : σ) :
    call (lift e : Fallible ε σ α) s = (e, s) := rfl

@[simp] theorem call_write (f : σ → σ) (s : σ) :
    call (write f : Fallible ε σ Unit) s = (.ok (), f s) := rfl

@[simp] theorem call_raise (e : ε) (s : σ) :
    call (raise e : Fallible ε σ α) s = (.error e, s) := rfl

/-- Sequencing: the second part runs from the state the first one left,
and does not run at all when the first one failed. -/
theorem call_bind (m : Fallible ε σ α) (f : α → Fallible ε σ β) (s : σ) :
    call (m >>= f) s =
      match call m s with
      | (.ok a, s') => call (f a) s'
      | (.error e, s') => (.error e, s') := by
  rcases h : call m s with ⟨e | a, s'⟩ <;>
  · simp only [call, ExceptT.run, StateT.run] at h
    simp only [call, bind, ExceptT.bind, ExceptT.mk, ExceptT.run, StateT.run, StateT.bind, h]
    rfl

theorem call_bind_ok {m : Fallible ε σ α} {f : α → Fallible ε σ β} {s s' : σ} {a : α}
    (h : call m s = (.ok a, s')) : call (m >>= f) s = call (f a) s' := by
  rw [call_bind, h]

theorem call_bind_error {m : Fallible ε σ α} {f : α → Fallible ε σ β} {s s' : σ} {e : ε}
    (h : call m s = (.error e, s')) : call (m >>= f) s = (.error e, s') := by
  rw [call_bind, h]

/-- A pure stage in front of a computation either fails, leaving the
state alone, or hands its value on. -/
@[simp] theorem call_lift_bind (e : Except ε α) (f : α → Fallible ε σ β) (s : σ) :
    call (lift e >>= f) s =
      match e with
      | .ok a => call (f a) s
      | .error e => (.error e, s) := by
  rw [call_bind, call_lift]
  cases e <;> rfl

/-- Go on with the value of a pure stage, or fail leaving the state alone. -/
def proceed {γ : Type} (e : Except ε γ) (s : σ) (post : γ → Except ε β × σ) : Except ε β × σ :=
  match e with
  | .ok c => post c
  | .error e => (.error e, s)

/-- **Pure stages come off the front.** Where what follows a stage runs as
`g` and then `post`, the stage and what follows run as the two stages in
sequence and then `post`. -/
theorem call_stage {γ : Type} {e : Except ε α} {f : α → Fallible ε σ β} {g : α → Except ε γ}
    {s : σ} {post : γ → Except ε β × σ} (h : ∀ a, call (f a) s = proceed (g a) s post) :
    call (lift e >>= f) s = proceed (e >>= g) s post := by
  rw [call_lift_bind]
  cases e with
  | error e => rfl
  | ok a => exact h a

@[simp] theorem call_read_bind (f : σ → Fallible ε σ β) (s : σ) :
    call (read >>= f) s = call (f s) s := rfl

@[simp] theorem call_write_bind (g : σ → σ) (f : Unit → Fallible ε σ β) (s : σ) :
    call (write g >>= f) s = call (f ()) (g s) := rfl

theorem call_attempt (select : ε → Option ε') (m : Fallible ε σ α) (s : σ) :
    call (attempt select m) s =
      match call m s with
      | (.ok a, s') => (.ok (.ok a), s')
      | (.error e, s') =>
        match select e with
        | some e' => (.ok (.error e'), s')
        | none => (.error e, s') := rfl

theorem call_mapError (f : ε → ε') (m : Fallible ε σ α) (s : σ) :
    call (mapError f m) s = ((call m s).1.mapError f, (call m s).2) := rfl

theorem call_onFront (n : ℕ) (m : Fallible ε (List α) β) (xs : List α) :
    call (onFront n m) xs = ((call m (xs.take n)).1, (call m (xs.take n)).2 ++ xs.drop n) := rfl

end Fallible

/-- Whether an outcome is a success. -/
def succeeded {ε α : Type} : Except ε α → Bool
  | .ok _ => true
  | .error _ => false

@[simp] theorem succeeded_ok {ε α : Type} (a : α) :
    succeeded (.ok a : Except ε α) = true := rfl

@[simp] theorem succeeded_error {ε α : Type} (e : ε) :
    succeeded (.error e : Except ε α) = false := rfl

/-- Two stages succeed when both do. -/
theorem bind_eq_ok {ε α β : Type} {x : Except ε α} {f : α → Except ε β} {b : β} :
    x >>= f = .ok b ↔ ∃ a, x = .ok a ∧ f a = .ok b := by
  cases x <;> simp [bind, Except.bind]

/-- Two stages fail when the first does, or when it succeeds and the
second fails. -/
theorem bind_eq_error {ε α β : Type} {x : Except ε α} {f : α → Except ε β} {e : ε} :
    x >>= f = .error e ↔ x = .error e ∨ ∃ a, x = .ok a ∧ f a = .error e := by
  cases x <;> simp [bind, Except.bind]

theorem succeeded_iff {ε α : Type} {r : Except ε α} : succeeded r = true ↔ ∃ a, r = .ok a := by
  cases r <;> simp

/-! ## A partial function as a stage -/

/-- Go on with the value of a partial function, or fail with the stage's
own error. -/
def orFail {ε α : Type} (e : ε) : Option α → Except ε α
  | some a => .ok a
  | none => .error e

@[simp] theorem orFail_eq_ok {ε α : Type} {e : ε} {x : Option α} {a : α} :
    orFail e x = .ok a ↔ x = some a := by
  cases x <;> simp [orFail]

@[simp] theorem orFail_eq_error {ε α : Type} {e e' : ε} {x : Option α} :
    orFail e x = .error e' ↔ x = none ∧ e = e' := by
  cases x <;> simp [orFail]

/-! ## What a stage may raise -/

/-- Every error of a stage is of a kind. -/
def Raises {ε α : Type} (P : ε → Prop) (x : Except ε α) : Prop := ∀ e, x = .error e → P e

theorem raises_ok {ε α : Type} {P : ε → Prop} (a : α) : Raises P (.ok a) := by
  intro e h
  cases h

theorem raises_error {ε α : Type} {P : ε → Prop} {e : ε} (h : P e) :
    Raises P (.error e : Except ε α) := by
  intro e' he
  cases he
  exact h

/-- A guarded stage raises what one of its branches raises. -/
theorem raises_ite {ε α : Type} {P : ε → Prop} {c : Prop} [Decidable c] {x y : Except ε α}
    (hx : Raises P x) (hy : Raises P y) : Raises P (if c then x else y) := by
  by_cases h : c
  · rwa [if_pos h]
  · rwa [if_neg h]

/-- Stages in sequence raise what one of them raises. -/
theorem raises_bind {ε α β : Type} {P : ε → Prop} {x : Except ε α} {f : α → Except ε β}
    (hx : Raises P x) (hf : ∀ a, x = .ok a → Raises P (f a)) : Raises P (x >>= f) := by
  intro e h
  rcases bind_eq_error.1 h with h | ⟨a, ha, h⟩
  · exact hx e h
  · exact hf a ha e h

end NhpSba
