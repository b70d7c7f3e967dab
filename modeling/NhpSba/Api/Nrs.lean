import NhpSba.Api.Model.Nrs
import NhpSba.Common.Machine
/-!
# What the naming service admits

A query is admitted when its `jti` enters the replay cache, which is
exactly when it passes the three checks (`admitted_iff`). What enters has
not expired and declares a life of thirty seconds at most, no `jti` enters
twice, and a query that does not enter leaves the cache alone
(`declaredLaw_of_run`). The lifetime is measured from the caller's own
`iat`, which nothing compares with the clock: what is left of it is short
too exactly when no query of the run that passes was issued in the future
(`admissionLaw_iff`).
-/

namespace NhpSba

namespace Api

open Fallible Machine

variable {nhpServerId : String} {cache : Finset String} {request : Resolve}

/-- What a query must be to enter the cache. -/
def Passes (cache : Finset String) (request : Resolve) : Prop :=
  request.jti ∉ cache ∧ request.now ≤ request.exp ∧ request.exp - request.iat ≤ 30

instance : Decidable (Passes cache request) := inferInstanceAs (Decidable (_ ∧ _ ∧ _))

/-- **One query.** A query that passes is recorded, and any other changes
nothing. -/
theorem call_resolveIntent (nhpServerId : String) (cache : Finset String) (request : Resolve) :
    (call (resolveIntent nhpServerId request) cache).2 =
      if Passes cache request then insert request.jti cache else cache := by
  unfold resolveIntent
  rw [call_read_bind]
  by_cases hseen : request.jti ∈ cache
  · rw [if_pos hseen, call_raise, if_neg fun hpasses : Passes cache request => hpasses.1 hseen]
  rw [if_neg hseen]
  by_cases hexpired : request.now > request.exp
  · rw [if_pos hexpired, call_raise, if_neg fun hpasses : Passes cache request =>
      absurd hpasses.2.1 (by omega)]
  rw [if_neg hexpired]
  by_cases hlong : request.exp - request.iat > 30
  · rw [if_pos hlong, call_raise, if_neg fun hpasses : Passes cache request =>
      absurd hpasses.2.2 (by omega)]
  have hpasses : Passes cache request := ⟨hseen, by omega, by omega⟩
  rw [if_neg hlong, if_pos hpasses, call_write_bind]
  split <;> rfl

/-- One call as a step over the replay cache. -/
def step (nhpServerId : String) (cache : Finset String) (request : Resolve) :
    Except HTTPException AgentDnsResponse × Finset String :=
  call (resolveIntent nhpServerId request) cache

/-- A query is admitted: its `jti` is recorded by this call. -/
def Admitted (nhpServerId : String) (cache : Finset String) (request : Resolve) : Prop :=
  request.jti ∉ cache ∧ request.jti ∈ (step nhpServerId cache request).2

/-- **Admission is passing the three checks.** -/
theorem admitted_iff : Admitted nhpServerId cache request ↔ Passes cache request := by
  rw [Admitted, step, call_resolveIntent]
  constructor
  · rintro ⟨hnew, hin⟩
    split at hin
    · next hpasses => exact hpasses
    · exact absurd hin hnew
  · intro hpasses
    rw [if_pos hpasses]
    exact ⟨hpasses.1, Finset.mem_insert_self _ _⟩

theorem step_of_not_admitted (h : ¬Admitted nhpServerId cache request) :
    (step nhpServerId cache request).2 = cache := by
  rw [step, call_resolveIntent, if_neg fun hpasses => h (admitted_iff.2 hpasses)]

theorem cache_subset_step : cache ⊆ (step nhpServerId cache request).2 := by
  rw [step, call_resolveIntent]
  split
  · exact Finset.subset_insert _ _
  · exact subset_rfl

/-- An admitted query is live, and short-lived by its own account. -/
theorem declared_of_admitted (h : Admitted nhpServerId cache request) :
    request.now ≤ request.exp ∧ request.exp ≤ request.iat + 30 := by
  obtain ⟨-, hlive, hshort⟩ := admitted_iff.1 h
  exact ⟨hlive, by omega⟩

/-- The cache only grows. -/
theorem cache_subset_after (requests : List Resolve) :
    cache ⊆ after (step nhpServerId) cache requests := by
  induction requests generalizing cache with
  | nil => exact subset_rfl
  | cons request requests ih => exact cache_subset_step.trans ih

/-- **What a run admits**, from an empty cache. -/
structure DeclaredLaw (nhpServerId : String) (requests : List Resolve) : Prop where
  /-- An admitted query is not expired, and its life as declared is short. -/
  declared : ∀ pre request post, requests = pre ++ request :: post →
    Admitted nhpServerId (after (step nhpServerId) ∅ pre) request →
      request.now ≤ request.exp ∧ request.exp ≤ request.iat + 30
  /-- No `jti` is admitted twice. -/
  once : ∀ pre request mid other post, requests = pre ++ request :: (mid ++ other :: post) →
    Admitted nhpServerId (after (step nhpServerId) ∅ pre) request →
      Admitted nhpServerId (after (step nhpServerId) ∅ (pre ++ request :: mid)) other →
        request.jti ≠ other.jti
  /-- A query that is not admitted changes nothing. -/
  silent : ∀ pre request post, requests = pre ++ request :: post →
    ¬Admitted nhpServerId (after (step nhpServerId) ∅ pre) request →
      after (step nhpServerId) ∅ (pre ++ [request]) = after (step nhpServerId) ∅ pre

/-- The same, where an admitted query was also issued by the time it
arrives, so that what is left of its life is short. -/
structure AdmissionLaw (nhpServerId : String) (requests : List Resolve) : Prop extends
    DeclaredLaw nhpServerId requests where
  issued : ∀ pre request post, requests = pre ++ request :: post →
    Admitted nhpServerId (after (step nhpServerId) ∅ pre) request →
      request.iat ≤ request.now ∧ request.exp - request.now ≤ 30

/-- A query that is new, unexpired and short-lived by its own account was
not issued in the future. -/
def IssuedByNow (cache : Finset String) (request : Resolve) : Prop :=
  request.jti ∉ cache → request.now ≤ request.exp → request.exp - request.iat ≤ 30 →
    request.iat ≤ request.now

/-- No `jti` enters the cache twice. -/
theorem admitted_once (pre mid : List Resolve) {other : Resolve}
    (hfirst : Admitted nhpServerId (after (step nhpServerId) ∅ pre) request)
    (hsecond : Admitted nhpServerId (after (step nhpServerId) ∅ (pre ++ request :: mid)) other) :
    request.jti ≠ other.jti := by
  intro hsame
  have hin : request.jti ∈ after (step nhpServerId) ∅ (pre ++ request :: mid) := by
    rw [after_append, after_cons]
    exact cache_subset_after mid hfirst.2
  rw [hsame] at hin
  exact hsecond.1 hin

/-- A query that a run does not admit leaves the cache of the run alone. -/
theorem after_of_not_admitted (pre : List Resolve)
    (h : ¬Admitted nhpServerId (after (step nhpServerId) ∅ pre) request) :
    after (step nhpServerId) ∅ (pre ++ [request]) = after (step nhpServerId) ∅ pre := by
  rw [after_concat]
  exact step_of_not_admitted h

/-- **When what is left is short as well.** For either copy and every run,
the admission law holds exactly when each query that is new, unexpired and
declares a lifetime of at most thirty seconds was issued by the time it
arrives. -/
theorem admissionLaw_iff (nhpServerId : String) (requests : List Resolve) :
    AdmissionLaw nhpServerId requests ↔ AllSteps (step nhpServerId) IssuedByNow ∅ requests := by
  constructor
  · intro hlaw pre request post hsplit hnew hlive hshort
    exact (hlaw.issued pre request post hsplit (admitted_iff.2 ⟨hnew, hlive, hshort⟩)).1
  · intro hissued
    refine ⟨⟨fun pre request post _ => declared_of_admitted,
      fun pre request mid other post _ => admitted_once pre mid,
      fun pre request post _ => after_of_not_admitted pre⟩,
      fun pre request post hsplit hadmitted => ?_⟩
    obtain ⟨hnew, hlive, hshort⟩ := admitted_iff.1 hadmitted
    have hissued := hissued pre request post hsplit hnew hlive hshort
    exact ⟨hissued, by omega⟩

end Api

end NhpSba
