import NhpSba.Api.Model.RateLimit
import NhpSba.Common.Lookup
import NhpSba.Common.Window
import Mathlib.Tactic.Linarith
/-!
# The rate limiter is an exact sliding window

The middleware's lists, pruned late and only by their own client, agree
on what still counts with the history of all forwarded requests
(`dispatch_follows`). So its verdicts are those of the limiter that keeps
that history (`verdicts_eq`), whose laws are the ones a client sees.
-/

namespace NhpSba

namespace Api

namespace RateLimitMiddleware

open Machine

/-- The limiter that the middleware is, with its whole history kept. -/
def limiter (maxRequests windowSeconds : ℤ) : Limiter Request String ℚ where
  key := Request.clientIp
  time := Request.time
  limit := maxRequests
  width := windowSeconds

variable {maxRequests windowSeconds : ℤ} {counts : RequestCounts} {hist : List Request} {now : ℚ}

/-! ## One request -/

theorem entry_insert (counts : RequestCounts) (clientIp : String) (ts : List ℚ) :
    entry (counts.insert clientIp ts) = Function.update (entry counts) clientIp ts := by
  funext c
  rw [entry, lookup_insert_update]
  by_cases hc : c = clientIp
  · subst hc
    rw [Function.update_self, Function.update_self]
    rfl
  · rw [Function.update_of_ne hc, Function.update_of_ne hc]
    rfl

/-- A client not heard from yet gets an empty list, which is what it had. -/
theorem entry_ensure (counts : RequestCounts) (clientIp : String) :
    entry (if clientIp ∈ counts then counts else counts.insert clientIp []) = entry counts := by
  by_cases hmem : clientIp ∈ counts
  · rw [if_pos hmem]
  · have hnone : entry counts clientIp = [] := by
      rw [entry, AList.lookup_eq_none.2 hmem]
      rfl
    rw [if_neg hmem, entry_insert, ← hnone, Function.update_eq_self]

/-- **One request, by its list.** The list of the request's client is
pruned, the request is forwarded when what is left of it is short enough,
and then it is added to it. -/
theorem dispatch_eq (maxRequests windowSeconds : ℤ) (counts : RequestCounts) (request : Request) :
    let pruned := Limiter.live (windowSeconds : ℚ) request.time (entry counts request.clientIp)
    (dispatch maxRequests windowSeconds counts request).1.isForwarded
      = decide ((pruned.length : ℤ) < maxRequests) ∧
    entry (dispatch maxRequests windowSeconds counts request).2
      = Function.update (entry counts) request.clientIp
        (if (pruned.length : ℤ) < maxRequests then pruned ++ [request.time] else pruned) := by
  intro pruned
  have hpruned : (entry counts request.clientIp).filter
      (fun ts => request.time - ts < windowSeconds) = pruned := rfl
  simp only [dispatch, entry_insert, entry_ensure, Function.update_self, hpruned]
  by_cases hlt : (pruned.length : ℤ) < maxRequests
  · rw [if_neg (not_le.2 hlt), if_pos hlt, decide_eq_true hlt]
    exact ⟨rfl, by simp only [entry_insert, entry_ensure, Function.update_idem]⟩
  · rw [if_pos (not_lt.1 hlt), if_neg hlt, decide_eq_false hlt]
    exact ⟨rfl, by simp only [entry_insert, entry_ensure]⟩

/-- **The middleware and the history go together.** From lists that agree
with a history, a request that does not come early gets the limiter's
verdict, and leaves lists that agree with the limiter's history. -/
theorem dispatch_follows {request : Request}
    (h : (limiter maxRequests windowSeconds).Follows (entry counts) hist now)
    (hle : now ≤ request.time) :
    (dispatch maxRequests windowSeconds counts request).1.isForwarded
      = ((limiter maxRequests windowSeconds).step hist request).1 ∧
    (limiter maxRequests windowSeconds).Follows
      (entry (dispatch maxRequests windowSeconds counts request).2)
      ((limiter maxRequests windowSeconds).step hist request).2 request.time := by
  obtain ⟨hverdict, hentry⟩ := dispatch_eq maxRequests windowSeconds counts request
  have hnow := h.later hle
  have hprune := hnow.prune request.clientIp
  have hlen : (Limiter.live (windowSeconds : ℚ) request.time
      (entry counts request.clientIp)).length
      = (hist.filter ((limiter maxRequests windowSeconds).counts request)).length := by
    rw [← Limiter.length_live_times]
    exact congrArg List.length (hnow request.clientIp request.time le_rfl)
  rw [hverdict, hentry, Limiter.step, hlen]
  -- forwarded, the request is counted; refused, only the pruning stays
  by_cases hlt : ((hist.filter ((limiter maxRequests windowSeconds).counts request)).length : ℤ)
      < maxRequests
  · rw [if_pos hlt, if_pos (by exact hlt), decide_eq_true hlt]
    refine ⟨rfl, ?_⟩
    have hadmit := hprune.admit (i := request)
    rw [show (limiter maxRequests windowSeconds).key request = request.clientIp from rfl,
      Function.update_self, Function.update_idem] at hadmit
    exact hadmit
  · rw [if_neg hlt, if_neg (by exact hlt), decide_eq_false hlt]
    exact ⟨rfl, hprune⟩

/-! ## A run -/

/-- The requests of a run, each with whether it was forwarded. -/
def verdicts (maxRequests windowSeconds : ℤ) (requests : List Request) : List (Request × Bool) :=
  (trace (dispatch maxRequests windowSeconds) ∅ requests).map fun x => (x.1, x.2.isForwarded)

/-- The forwarded requests of a kind, counted. -/
def forwardedCount (kind : Request → Bool) (run : List (Request × Bool)) : ℕ :=
  (run.filter fun x => x.2 && kind x.1).length

/-- The clock does not go back between two requests. -/
def ClockForward (requests : List Request) : Prop :=
  requests.Pairwise fun earlier later => earlier.time ≤ later.time

theorem trace_follows {requests : List Request} (hclock : ClockForward requests)
    (h : (limiter maxRequests windowSeconds).Follows (entry counts) hist now)
    (hle : ∀ request ∈ requests, now ≤ request.time) :
    (trace (dispatch maxRequests windowSeconds) counts requests).map
        (fun x => (x.1, x.2.isForwarded))
      = trace (limiter maxRequests windowSeconds).step hist requests := by
  induction requests generalizing counts hist now with
  | nil => rfl
  | cons request requests ih =>
    obtain ⟨hfirst, hrest⟩ := List.pairwise_cons.1 hclock
    obtain ⟨hverdict, hfollows⟩ := dispatch_follows h (hle request (List.mem_cons_self ..))
    rw [trace_cons, trace_cons, List.map_cons, hverdict, ih hrest hfollows hfirst]

/-- **The middleware's verdicts are the limiter's.** -/
theorem verdicts_eq (maxRequests windowSeconds : ℤ) {requests : List Request}
    (hclock : ClockForward requests) :
    verdicts maxRequests windowSeconds requests
      = trace (limiter maxRequests windowSeconds).step [] requests := by
  cases requests with
  | nil => rfl
  | cons request requests =>
    have hempty : (limiter maxRequests windowSeconds).Follows (entry ∅) [] request.time :=
      fun _ _ _ => rfl
    refine trace_follows hclock hempty fun other hother => ?_
    rcases List.mem_cons.1 hother with rfl | hother
    · exact le_rfl
    · exact (List.pairwise_cons.1 hclock).1 other hother

/-- Forwarded requests of a kind are admissions of that kind. -/
theorem forwardedCount_eq {requests : List Request} (hclock : ClockForward requests)
    (kind : Request → Bool) :
    forwardedCount kind (verdicts maxRequests windowSeconds requests)
      = ((after (limiter maxRequests windowSeconds).step [] requests).filter kind).length := by
  rw [verdicts_eq _ _ hclock, Limiter.after_step, List.nil_append, List.filter_map, List.length_map,
    List.filter_filter, forwardedCount]
  refine congrArg List.length (List.filter_congr fun x _ => ?_)
  exact Bool.and_comm _ _

/-- **The verdict on a request**, by the forwarded requests before it. -/
theorem forwarded_iff {pre : List Request} {request : Request}
    (hclock : ClockForward (pre ++ [request])) :
    (dispatch maxRequests windowSeconds (after (dispatch maxRequests windowSeconds) ∅ pre)
        request).1.isForwarded = true ↔
      (forwardedCount (fun earlier => earlier.clientIp = request.clientIp ∧
          request.time - earlier.time < windowSeconds)
        (verdicts maxRequests windowSeconds pre) : ℤ) < maxRequests := by
  have hpre : ClockForward pre := (List.pairwise_append.1 hclock).1
  have hrun := verdicts_eq maxRequests windowSeconds hclock
  have hbefore := verdicts_eq maxRequests windowSeconds hpre
  simp only [verdicts, trace_append, trace_cons, trace_nil, List.map_append, List.map_cons,
    List.map_nil] at hrun hbefore
  rw [hbefore] at hrun
  -- the last verdict of the run is that of the request
  have hverdict := (Prod.mk.inj (List.cons.inj (List.append_cancel_left hrun)).1).2
  rw [hverdict, forwardedCount_eq hpre, Limiter.step]
  show (if ((List.filter _ _).length : ℤ) < maxRequests then _ else _ : Bool × _).1 = true ↔
    ((List.filter ((limiter maxRequests windowSeconds).counts request) _).length : ℤ) < maxRequests
  split
  · next hlt => exact ⟨fun _ => hlt, fun _ => rfl⟩
  · next hlt => exact ⟨fun h => absurd h Bool.false_ne_true, fun h => absurd h hlt⟩

/-- Requests of one client within less than a window of each other count
against each other, so no more of them are forwarded than the limit. -/
theorem forwardedCount_le {requests : List Request} (hclock : ClockForward requests)
    {kind : Request → Bool}
    (hkind : ∀ later earlier, kind later = true → kind earlier = true →
      earlier.clientIp = later.clientIp ∧ later.time - earlier.time < windowSeconds) :
    forwardedCount kind (verdicts maxRequests windowSeconds requests) ≤ maxRequests.toNat := by
  rw [forwardedCount_eq hclock]
  exact Limiter.length_filter_le (L := limiter maxRequests windowSeconds)
    (fun later earlier hlater hearlier => decide_eq_true (hkind later earlier hlater hearlier))
    requests

/-- Requests that were refused may be deleted from a run: every other
request keeps its verdict. -/
theorem verdicts_of_sublist {requests : List Request} (hclock : ClockForward requests)
    {kept : List (Request × Bool)}
    (hsub : kept.Sublist (verdicts maxRequests windowSeconds requests))
    (hkept : kept.filter (fun x => x.2)
      = (verdicts maxRequests windowSeconds requests).filter fun x => x.2) :
    verdicts maxRequests windowSeconds (kept.map Prod.fst) = kept := by
  have hrequests : (verdicts maxRequests windowSeconds requests).map Prod.fst = requests := by
    rw [verdicts_eq _ _ hclock, map_fst_trace]
  have hclock' : ClockForward (kept.map Prod.fst) := by
    have hmap := hsub.map Prod.fst
    rw [hrequests] at hmap
    exact hclock.sublist hmap
  rw [verdicts_eq _ _ hclock] at hsub hkept
  rw [verdicts_eq _ _ hclock']
  -- a refused request leaves no trace in the limiter
  have hsilent : ∀ (hist : List Request) (request : Request),
      id ((limiter maxRequests windowSeconds).step hist request).1 = false →
        ((limiter maxRequests windowSeconds).step hist request).2 = hist :=
    fun _ _ => Limiter.step_refused
  exact trace_of_sublist hsilent hsub hkept

/-- Requests of other clients may be deleted from a run. -/
theorem verdicts_filter {requests : List Request} (hclock : ClockForward requests)
    (clientIp : String) :
    verdicts maxRequests windowSeconds (requests.filter fun r => r.clientIp = clientIp)
      = (verdicts maxRequests windowSeconds requests).filter fun x => x.1.clientIp = clientIp := by
  have hclock' : ClockForward (requests.filter fun r => r.clientIp = clientIp) :=
    hclock.sublist List.filter_sublist
  rw [verdicts_eq _ _ hclock, verdicts_eq _ _ hclock']
  exact (Limiter.filter_trace (L := limiter maxRequests windowSeconds) clientIp [] requests).symm

/-- **The rate limiter is an exact sliding window per client.** Over any
run of requests at non-decreasing times: a request is forwarded exactly
when fewer than `maxRequests` earlier requests of its client were
forwarded less than a window ago; no half-open interval as long as the
window holds more than `maxRequests` forwarded requests of one client;
and deleting refused requests, or all requests of other clients, changes
no verdict on what is left. -/
theorem window_exact (maxRequests windowSeconds : ℤ) {requests : List Request}
    (hclock : ClockForward requests) :
    (∀ pre request post, requests = pre ++ request :: post →
      ((dispatch maxRequests windowSeconds (after (dispatch maxRequests windowSeconds) ∅ pre)
          request).1.isForwarded = true ↔
        (forwardedCount (fun earlier => earlier.clientIp = request.clientIp ∧
            request.time - earlier.time < windowSeconds)
          (verdicts maxRequests windowSeconds pre) : ℤ) < maxRequests)) ∧
    (∀ clientIp start,
      forwardedCount (fun request => request.clientIp = clientIp ∧
          (start ≤ request.time ∧ request.time < start + windowSeconds))
        (verdicts maxRequests windowSeconds requests) ≤ maxRequests.toNat ∧
      forwardedCount (fun request => request.clientIp = clientIp ∧
          (start < request.time ∧ request.time ≤ start + windowSeconds))
        (verdicts maxRequests windowSeconds requests) ≤ maxRequests.toNat) ∧
    (∀ kept : List (Request × Bool), kept.Sublist (verdicts maxRequests windowSeconds requests) →
      kept.filter (fun x => x.2)
        = (verdicts maxRequests windowSeconds requests).filter (fun x => x.2) →
      verdicts maxRequests windowSeconds (kept.map Prod.fst) = kept) ∧
    ∀ clientIp,
      verdicts maxRequests windowSeconds (requests.filter fun r => r.clientIp = clientIp)
        = (verdicts maxRequests windowSeconds requests).filter fun x => x.1.clientIp = clientIp := by
  refine ⟨fun pre request post hsplit => ?_, fun clientIp start => ⟨?_, ?_⟩,
    fun kept hsub hkept => verdicts_of_sublist hclock hsub hkept,
    fun clientIp => verdicts_filter hclock clientIp⟩
  · rw [hsplit, ← List.singleton_append, ← List.append_assoc] at hclock
    exact forwarded_iff (List.pairwise_append.1 hclock).1
  · -- what a window counts lies within `windowSeconds` of its last request, at either end
    refine forwardedCount_le hclock fun later earlier hlater hearlier => ?_
    obtain ⟨hsame, -, hbefore⟩ := of_decide_eq_true hlater
    obtain ⟨hsame', hafter, -⟩ := of_decide_eq_true hearlier
    exact ⟨hsame'.trans hsame.symm, by linarith⟩
  · refine forwardedCount_le hclock fun later earlier hlater hearlier => ?_
    obtain ⟨hsame, -, hbefore⟩ := of_decide_eq_true hlater
    obtain ⟨hsame', hafter, -⟩ := of_decide_eq_true hearlier
    exact ⟨hsame'.trans hsame.symm, by linarith⟩

/-- With one request a minute allowed, the first goes through, a second one
second later is refused, and one in the next minute goes through again. -/
theorem window_exact_minute :
    let first : Request := ⟨some "10.0.0.7", 1⟩
    let second : Request := ⟨some "10.0.0.7", 2⟩
    let third : Request := ⟨some "10.0.0.7", 61⟩
    (dispatch 1 60 ∅ first).1.isForwarded = true ∧
    ¬(dispatch 1 60 (after (dispatch 1 60) ∅ [first]) second).1.isForwarded = true ∧
    (dispatch 1 60 (after (dispatch 1 60) ∅ [first, second]) third).1.isForwarded = true := by
  intro first second third
  have hclock : ClockForward [first, second, third] := by
    unfold ClockForward
    decide +kernel
  have hexact := (window_exact 1 60 hclock).1
  refine ⟨?_, fun hforwarded => ?_, ?_⟩
  · exact (hexact [] first [second, third] rfl).2 (by decide +kernel)
  · have hfew := (hexact [first] second [third] rfl).1 hforwarded
    exact absurd hfew (by decide +kernel)
  · exact (hexact [first, second] third [] rfl).2 (by decide +kernel)

end RateLimitMiddleware

end Api

end NhpSba
