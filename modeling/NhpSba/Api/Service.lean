import NhpSba.Api.Model.Service
import NhpSba.Api.RateLimit
import NhpSba.Api.Routes
import NhpSba.Knock.NonceWindow
/-!
# The service over whole runs

A run of the service is three runs in one: the limiter's over the requests
that come, the validator's over the knocks that are answered, and a queue's
between them. The first two are component machines (`counts_of_run`,
`seenNonces_of_run`), and the queue loses nothing and answers nothing twice
(`perm_of_run`). What the validator remembers is read off the acceptances of
the run (`mem_seenNonces_iff`), in whatever order the waiting submissions
are answered.
-/

namespace NhpSba

namespace Api

namespace Service

open Knock Policy Fallible Machine RateLimitMiddleware MAMASafetyGate

variable {K J : Type} (C : ServiceConfig K J)

/-! ## What a step does -/

/-- The request that comes at a step. -/
def requested : Step K → Option Request
  | (_, .comes request _, _) => some request
  | _ => none

/-- The submission that the limiter lets through at a step. -/
def forwarded : Step K → Option Submission
  | (service, .comes request body, _) => admitted C service.requestCounts request body
  | _ => none

/-- The submission that a step answers. -/
def answered : Step K → Option Submission
  | (_, .answers submission _, _) => some submission
  | _ => none

/-- The knock that a step shows the validator. -/
def knock : Step K → Option (Arrival K)
  | (service, .answers submission ambient, _) =>
    (readKnock C.packages submission.body ambient.parsing).toOption.map fun payload =>
      ⟨service.validator.trustStore, payload, ambient.evaluation.clock⟩
  | _ => none

/-- The knock of a step, with the validator's outcome. -/
def met (t : Step K) : Option (Arrival K × Except PyException Dict) :=
  (knock C t).map fun k =>
    (k, (NhpJwtValidator.receive C.packages.runtime t.1.validator.seenNonces k).1)

/-- The knock that the validator accepts at a step, with its claims. -/
def accepted (t : Step K) : Option (Arrival K × Dict) :=
  (met C t).bind fun x => x.2.toOption.map fun claims => (x.1, claims)

/-- The nonces accepted in a run, with the times of it. -/
def acceptances (ts : List (Step K)) : List (String × ℚ) :=
  (ts.filterMap (accepted C)).map fun x => (x.1.payload.nonce, x.1.clock.nonce)

/-- Whether a step sends an approval. -/
def approves (t : Step K) : Bool :=
  match answer C t with
  | some (.ok response) => response.decision = "APPROVE"
  | _ => false

variable {C} {ts : List (Step K)} {service service' : Service K}

/-! ## The components -/

/-- A submission that is not read leaves the validator alone, and one that
is read leaves it as the validator's own step does. -/
theorem validator_submitKnk (body : KnkSubmitRequest) (ambient : RequestAmbient)
    (v : NhpJwtValidator K) :
    ((call (submitKnk C.packages C.gates body ambient) v).2).seenNonces =
      ((readKnock C.packages body ambient.parsing).toOption).elim v.seenNonces fun payload =>
        (NhpJwtValidator.receive C.packages.runtime v.seenNonces
          ⟨v.trustStore, payload, ambient.evaluation.clock⟩).2 := by
  cases hread : readKnock C.packages body ambient.parsing with
  | error exc =>
    rw [call_submitKnk_error hread]
    rfl
  | ok payload =>
    rw [snd_call_submitKnk hread]
    rfl

/-- **The validator's table is the table after the knocks of the run.** -/
theorem seenNonces_of_run (hrun : (system C).Run ts service) :
    service.validator.seenNonces =
        after (NhpJwtValidator.receive C.packages.runtime) ∅ (ts.filterMap (knock C)) ∧
      ts.filterMap (met C) =
        trace (NhpJwtValidator.receive C.packages.runtime) ∅ (ts.filterMap (knock C)) := by
  refine hrun.component (fun service => service.validator.seenNonces) ?_ ?_
  · rintro _ ⟨trustStore, rfl⟩
    rfl
  · intro event service service' hnext
    cases event with
    | comes request body =>
      obtain rfl := hnext
      rfl
    | answers submission ambient =>
      obtain ⟨before, behind, -, rfl⟩ := hnext
      show ((call (submitKnk _ _ _ _) service.validator).2).seenNonces = _
      rw [validator_submitKnk, knock]
      cases readKnock C.packages submission.body ambient.parsing <;> rfl
    | manages trustStore =>
      obtain rfl := hnext
      rfl

/-- **The limiter's lists are those after the requests of the run.** -/
theorem counts_of_run (hrun : (system C).Run ts service) :
    service.requestCounts =
        after (dispatch C.maxRequests C.windowSeconds) ∅ (ts.filterMap requested) ∧
      ts.filterMap (fun t => (requested t).map fun request =>
          (request, (dispatch C.maxRequests C.windowSeconds t.1.requestCounts request).1)) =
        trace (dispatch C.maxRequests C.windowSeconds) ∅ (ts.filterMap requested) := by
  refine hrun.component requestCounts ?_ ?_
  · rintro _ ⟨trustStore, rfl⟩
    rfl
  · intro event service service' hnext
    cases event with
    | comes request body =>
      obtain rfl := hnext
      rfl
    | answers submission ambient =>
      obtain ⟨before, behind, -, rfl⟩ := hnext
      rfl
    | manages trustStore =>
      obtain rfl := hnext
      rfl

/-- **Nothing is lost and nothing answered twice.** What was answered and
what waits are together what was forwarded. -/
theorem perm_of_run (hrun : (system C).Run ts service) :
    (ts.filterMap answered ++ service.waiting).Perm (ts.filterMap (forwarded C)) := by
  induction hrun with
  | init hinit =>
    obtain ⟨trustStore, rfl⟩ := hinit
    exact List.Perm.refl _
  | @step ts service service' _ event hnext ih =>
    rw [System.filterMap_concat, System.filterMap_concat]
    cases event with
    | comes request body =>
      obtain rfl := hnext
      show (ts.filterMap answered ++ [] ++ (service.waiting ++
        (admitted C service.requestCounts request body).toList)).Perm
          (ts.filterMap (forwarded C) ++ (admitted C service.requestCounts request body).toList)
      rw [List.append_nil, ← List.append_assoc]
      exact ih.append_right _
    | answers submission ambient =>
      obtain ⟨before, behind, hwaiting, rfl⟩ := hnext
      rw [hwaiting] at ih
      show (ts.filterMap answered ++ [submission] ++ (before ++ behind)).Perm
        (ts.filterMap (forwarded C) ++ [])
      -- the submission moves from the queue to the answers
      rw [List.append_nil, List.append_assoc, List.singleton_append]
      exact (List.perm_middle.symm.append_left _).trans ih
    | manages trustStore =>
      obtain rfl := hnext
      show (ts.filterMap answered ++ [] ++ service.waiting).Perm
        (ts.filterMap (forwarded C) ++ [])
      rw [List.append_nil, List.append_nil]
      exact ih

/-! ## The clock -/

/-- What is collected from the readings of each step comes in their
order. -/
theorem sublist_readings {α : Type} {collect : Step K → Option α} (times : α → List ℚ)
    (h : ∀ t a, collect t = some a → (times a).Sublist t.2.1.readings) (ts : List (Step K)) :
    ((ts.filterMap collect).flatMap times).Sublist (ts.flatMap fun t => t.2.1.readings) := by
  induction ts with
  | nil => exact List.nil_sublist _
  | cons t ts ih =>
    rw [List.flatMap_cons]
    cases hc : collect t with
    | none =>
      rw [List.filterMap_cons_none hc]
      exact ih.trans (List.sublist_append_right _ _)
    | some a =>
      rw [List.filterMap_cons_some hc, List.flatMap_cons]
      exact (h t a hc).append ih

/-- The limiter's clock does not go back. -/
theorem clockForward_requests (hclock : ClockForward ts) :
    RateLimitMiddleware.ClockForward (ts.filterMap requested) := by
  have hsub := sublist_readings (fun request : Request => [request.time])
    (fun t request (hrequest : requested t = some request) => by
      obtain ⟨service, event, service'⟩ := t
      cases event with
      | comes request' body =>
        obtain rfl := Option.some.inj hrequest
        exact List.Sublist.refl _
      | answers submission ambient => cases hrequest
      | manages trustStore => cases hrequest) ts
  have htimes := hclock.sublist hsub
  rw [← List.map_eq_flatMap, List.pairwise_map] at htimes
  exact htimes

/-- The validator's clock does not go back. -/
theorem clockForward_knocks (C : ServiceConfig K J) (hclock : ClockForward ts) :
    NhpJwtValidator.ClockForward (ts.filterMap (knock C)) := by
  refine hclock.sublist (sublist_readings _ (fun t k hk => ?_) ts)
  obtain ⟨service, event, service'⟩ := t
  cases event with
  | comes request body => cases hk
  | manages trustStore => cases hk
  | answers submission ambient =>
    obtain ⟨payload, -, rfl⟩ := Option.map_eq_some_iff.1 hk
    -- the validator's two readings lie between the parser's and the session's
    refine List.Sublist.cons _ ?_
    exact (List.nil_sublist _).cons_cons _ |>.cons_cons _

/-! ## The acceptances -/

/-- The acceptances of the steps are those of the validator's run. -/
theorem acceptances_eq (hrun : (system C).Run ts service) :
    acceptances C ts = NhpJwtValidator.accepted C.packages.runtime (ts.filterMap (knock C)) := by
  have hmet := (seenNonces_of_run hrun).2
  have hcollect : ts.filterMap (accepted C) = (ts.filterMap (met C)).filterMap
      fun x => x.2.toOption.map fun claims => (x.1, claims) := by
    rw [List.filterMap_filterMap]
    rfl
  unfold acceptances NhpJwtValidator.accepted Guard.admissions
  rw [hcollect, hmet]
  show _ = ((trace (NhpJwtValidator.receive C.packages.runtime) ∅ (ts.filterMap (knock C))).filter
    fun x => succeeded x.2).map fun x => (x.1.payload.nonce, x.1.clock.nonce)
  induction trace (NhpJwtValidator.receive C.packages.runtime) ∅ (ts.filterMap (knock C)) with
  | nil => rfl
  | cons x xs ih =>
    obtain ⟨k, exc | claims⟩ := x
    · exact ih
    · exact congrArg _ ih

/-- **The nonces in the table** are those accepted at a time that no
acceptance comes more than 300 s after. -/
theorem mem_seenNonces_iff (hrun : (system C).Run ts service) (hclock : ClockForward ts)
    (nonce : String) : nonce ∈ service.validator.seenNonces ↔
      ∃ t, NhpJwtValidator.Kept (acceptances C ts) nonce t := by
  have htimed := (clockForward_knocks C hclock).timed (R := C.packages.runtime)
  rw [(seenNonces_of_run hrun).1, NhpJwtValidator.mem_iff_lookup, acceptances_eq hrun]
  exact exists_congr fun t => NhpJwtValidator.lookup_after_iff htimed

end Service

end Api

end NhpSba
