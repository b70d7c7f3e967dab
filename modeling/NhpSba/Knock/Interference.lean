import NhpSba.Knock.Replay
/-!
# Knock — one node's calls and another's verdicts

The table of nonces is shared by all nodes. A node's accepted call touches
it twice: it records a nonce, which any node may present later, and it
forgets the nonces older than 300 s, whoever presented them. Where neither
touches what another node is still to present, deleting the node's calls
changes nobody else's outcome (`trace_without`).
-/

namespace NhpSba

namespace Knock

open Fallible Machine

namespace NhpJwtValidator

variable {K J : Type} (R : Runtime K J)

/-- A run with a node's calls deleted. -/
def without (node : String) (calls : List (Arrival K)) : List (Arrival K) :=
  calls.filter fun k => decide (k.payload.nodeId ≠ node)

/-- The accept/reject verdicts of a node's calls in a run of a new
validator, in order. -/
def verdicts (node : String) (calls : List (Arrival K)) : List Bool :=
  ((trace (receive R) ∅ calls).filter fun x => decide (x.1.payload.nodeId = node)).map
    fun x => succeeded x.2

/-- A call leaves alone what comes after it, given the nonces accepted
before it: no other node presents its nonce later, nor a nonce accepted
more than 300 s before it. -/
def Spares (node : String) (hist : List (String × ℚ)) (a : Arrival K)
    (later : List (Arrival K)) : Prop :=
  ∀ b ∈ later, b.payload.nodeId ≠ node → a.payload.nonce ≠ b.payload.nonce ∧
    ∀ t, (b.payload.nonce, t) ∈ hist → a.clock.nonce ≤ t + nonceExpirySeconds

/-- Every accepted call of a node leaves alone what comes after it. -/
def SparesOthers (node : String) (calls : List (Arrival K)) : Prop :=
  ∀ pre a post, calls = pre ++ a :: post → a.payload.nodeId = node →
    succeeded (receive R (after (receive R) ∅ pre) a).1 = true →
      Spares node ((nonceGuard R).admissions ∅ pre) a post

/-- Two tables give the same stamp to every nonce another node is still to
present. -/
def AgreeFor (node : String) (later : List (Arrival K)) (seen seen' : NonceTable) : Prop :=
  ∀ b ∈ later, b.payload.nodeId ≠ node →
    seen.lookup b.payload.nonce = seen'.lookup b.payload.nonce

variable {R} {node : String} {seen seen' : NonceTable} {k : Arrival K}
  {later pre post : List (Arrival K)}

theorem without_cons_self (h : k.payload.nodeId = node) :
    without node (k :: post) = without node post :=
  List.filter_cons_of_neg (by simp [h])

theorem without_cons_ne (h : k.payload.nodeId ≠ node) :
    without node (k :: post) = k :: without node post :=
  List.filter_cons_of_pos (by simp [h])

/-- A stamp in the table of a new validator is the time of an acceptance. -/
theorem mem_admissions_of_lookup {is : List (Arrival K)} {n : String} {ts : ℚ}
    (h : (after (receive R) ∅ is).lookup n = some ts) :
    (n, ts) ∈ (nonceGuard R).admissions ∅ is := by
  induction is using List.reverseRecOn with
  | nil =>
    rw [after_nil, AList.lookup_empty] at h
    cases h
  | append_singleton is i ih =>
    rw [after_concat, lookup_receive] at h
    rw [acceptances_concat]
    by_cases hadm : succeeded (receive R (after (receive R) ∅ is) i).1 = true
    · rw [if_pos hadm] at h
      by_cases hn : n = i.payload.nonce
      · rw [if_pos hn, Option.some.injEq] at h
        subst hn h
        refine List.mem_append_right _ ?_
        rw [if_pos hadm]
        exact List.mem_singleton_self _
      · -- an older stamp, which the sweep has left
        rw [if_neg hn, Option.filter_eq_some_iff] at h
        exact List.mem_append_left _ (ih h.1)
    · rw [if_neg hadm] at h
      exact List.mem_append_left _ (ih h)

/-- The outcome of a call depends on the table only at its own nonce. -/
theorem receive_congr (h : seen.lookup k.payload.nonce = seen'.lookup k.payload.nonce) :
    (receive R seen k).1 = (receive R seen' k).1 := by
  have hmem : k.payload.nonce ∈ seen ↔ k.payload.nonce ∈ seen' := by
    rw [mem_iff_lookup, mem_iff_lookup, h]
  cases hchecks : arrivalChecks R k with
  | error exc => rw [receive_error hchecks, receive_error hchecks]
  | ok claims =>
    rw [receive_of_checks hchecks, receive_of_checks hchecks]
    by_cases hseen : k.payload.nonce ∈ seen
    · rw [if_pos hseen, if_pos (hmem.1 hseen)]
    · rw [if_neg hseen, if_neg (fun h => hseen (hmem.2 h))]

/-- A call met by both tables keeps them in agreement. -/
theorem AgreeFor.both (hk : k.payload.nodeId ≠ node) (h : AgreeFor node (k :: later) seen seen') :
    AgreeFor node later (receive R seen k).2 (receive R seen' k).2 := by
  intro b hb hbnode
  have hout : (receive R seen k).1 = (receive R seen' k).1 :=
    receive_congr (h k List.mem_cons_self hk)
  rw [lookup_receive, lookup_receive, hout, h b (List.mem_cons_of_mem _ hb) hbnode]

/-- A call that spares the others and is met by one table only keeps the
two in agreement. -/
theorem AgreeFor.one (h : AgreeFor node (k :: later) (after (receive R) ∅ pre) seen')
    (hspares : succeeded (receive R (after (receive R) ∅ pre) k).1 = true →
      Spares node ((nonceGuard R).admissions ∅ pre) k later) :
    AgreeFor node later (receive R (after (receive R) ∅ pre) k).2 seen' := by
  intro b hb hbnode
  rw [← h b (List.mem_cons_of_mem _ hb) hbnode, lookup_receive]
  by_cases hadm : succeeded (receive R (after (receive R) ∅ pre) k).1 = true
  · obtain ⟨hnonce, hage⟩ := hspares hadm b hb hbnode
    rw [if_pos hadm, if_neg (Ne.symm hnonce)]
    cases hlook : (after (receive R) ∅ pre).lookup b.payload.nonce with
    | none => rfl
    | some ts =>
      have hle : k.clock.nonce ≤ ts + nonceExpirySeconds :=
        hage ts (mem_admissions_of_lookup hlook)
      simp [Option.filter, hle]
  · rw [if_neg hadm]

/-- The run that is left to go, with the calls deleted and without: the
induction is on what is left, and the two tables agree for it. -/
theorem trace_without_of_agree (hspares : SparesOthers R node (pre ++ post))
    (h : AgreeFor node post (after (receive R) ∅ pre) seen') :
    (trace (receive R) (after (receive R) ∅ pre) post).filter
        (fun x => decide (x.1.payload.nodeId ≠ node)) =
      trace (receive R) seen' (without node post) := by
  induction post generalizing pre seen' with
  | nil => rfl
  | cons k post ih =>
    have hnext : pre ++ k :: post = (pre ++ [k]) ++ post := by simp
    by_cases hk : k.payload.nodeId = node
    · -- a call of the node's: the other run does not make it
      have hagree := h.one (hspares pre k post rfl hk)
      rw [← after_concat] at hagree
      have hrest := ih (hnext ▸ hspares) hagree
      rw [after_concat] at hrest
      rw [trace_cons, List.filter_cons_of_neg (by simp [hk]), hrest, without_cons_self hk]
    · have hagree : AgreeFor node post (receive R (after (receive R) ∅ pre) k).2
          (receive R seen' k).2 := h.both hk
      rw [← after_concat] at hagree
      have hrest := ih (hnext ▸ hspares) hagree
      rw [after_concat] at hrest
      rw [trace_cons, List.filter_cons_of_pos (by simp [hk]), hrest, without_cons_ne hk,
        trace_cons, receive_congr (h k List.mem_cons_self hk)]

/-- **Deleting a node's calls changes nobody else's outcome**, where its
accepted calls spare the others. -/
theorem trace_without {calls : List (Arrival K)} (hspares : SparesOthers R node calls) :
    (trace (receive R) ∅ calls).filter (fun x => decide (x.1.payload.nodeId ≠ node)) =
      trace (receive R) ∅ (without node calls) := by
  have hstart : AgreeFor node calls (after (receive R) ∅ []) ∅ := fun _ _ _ => rfl
  exact trace_without_of_agree hspares hstart

/-- **Nodes that spare each other's nonces do not interfere.** -/
theorem verdicts_without (R : Runtime K J) (calls : List (Arrival K)) (a b : String)
    (hne : a ≠ b) (hspares : SparesOthers R a calls) :
    verdicts R b (without a calls) = verdicts R b calls := by
  rw [verdicts, verdicts, ← trace_without hspares, List.filter_filter]
  congr 1
  refine List.filter_congr fun x _ => ?_
  by_cases hb : x.1.payload.nodeId = b
  · simp [hb, Ne.symm hne]
  · simp [hb]

/-! ## Two ways to interfere -/

section TwoNodes

/-- What the two nodes sign: A two knocks, and B two with one nonce, which
is also the nonce of A's first. -/
def signedByTwo : List PyValue :=
  [Sample.claims "node-a" "c2FtcGxlIG5vbmNlIDAwMQ==" 1700000000 0,
    Sample.claims "node-a" "c2FtcGxlIG5vbmNlIDAwMg==" 1700000310 0,
    Sample.claims "node-b" "c2FtcGxlIG5vbmNlIDAwMQ==" 1700000000 0,
    Sample.claims "node-b" "c2FtcGxlIG5vbmNlIDAwMQ==" 1700000310 0]

def packagesOfTwo : Runtime Bytes String := Sample.packages signedByTwo

def a₁ : Arrival Bytes :=
  sampleArrival "node-a" "c2FtcGxlIG5vbmNlIDAwMQ==" 1 1700000000 knockOfA_valid 1700000001

def a₂ : Arrival Bytes :=
  sampleArrival "node-a" "c2FtcGxlIG5vbmNlIDAwMg==" 1 1700000310 (by decide +kernel) 1700000311

def b₁ : Arrival Bytes :=
  sampleArrival "node-b" "c2FtcGxlIG5vbmNlIDAwMQ==" 2 1700000000 (by decide +kernel) 1700000002

def b₂ : Arrival Bytes :=
  sampleArrival "node-b" "c2FtcGxlIG5vbmNlIDAwMQ==" 2 1700000310 (by decide +kernel) 1700000312

theorem signedByTwo_distinct : ((Sample.header :: signedByTwo).map (Sample.dumps 2)).Nodup := by
  decide +kernel

theorem checks_signedByTwo {nodeId nonce : String} {byte : UInt8} {issued : ℤ} {reading : ℚ}
    {hvalid : (1 ≤ nodeId.length ∧ nodeId.length ≤ 256) ∧
      (16 ≤ nonce.length ∧ nonce.length ≤ 64) ∧ 0 < issued}
    (hsigned : Sample.claims nodeId nonce issued 0 ∈ signedByTwo)
    (htrust : twoNodes.keyBytesMap.lookup nodeId = some (Sample.key byte))
    (hfrom : (issued : ℚ) ≤ reading + 5) (hto : reading ≤ issued + 65) :
    arrivalChecks packagesOfTwo (sampleArrival nodeId nonce byte issued hvalid reading) =
      .ok (Sample.claimItems nodeId nonce issued 0) :=
  Sample.checks_knock signedByTwo_distinct hsigned htrust hfrom hto

theorem checks_a₁ : arrivalChecks packagesOfTwo a₁ =
    .ok (Sample.claimItems "node-a" "c2FtcGxlIG5vbmNlIDAwMQ==" 1700000000 0) :=
  checks_signedByTwo (by simp [signedByTwo]) lookup_nodeA (by norm_num) (by norm_num)

theorem checks_a₂ : arrivalChecks packagesOfTwo a₂ =
    .ok (Sample.claimItems "node-a" "c2FtcGxlIG5vbmNlIDAwMg==" 1700000310 0) :=
  checks_signedByTwo (by simp [signedByTwo]) lookup_nodeA (by norm_num) (by norm_num)

theorem checks_b₁ : arrivalChecks packagesOfTwo b₁ =
    .ok (Sample.claimItems "node-b" "c2FtcGxlIG5vbmNlIDAwMQ==" 1700000000 0) :=
  checks_signedByTwo (by simp [signedByTwo]) lookup_nodeB (by norm_num) (by norm_num)

theorem checks_b₂ : arrivalChecks packagesOfTwo b₂ =
    .ok (Sample.claimItems "node-b" "c2FtcGxlIG5vbmNlIDAwMQ==" 1700000310 0) :=
  checks_signedByTwo (by simp [signedByTwo]) lookup_nodeB (by norm_num) (by norm_num)

/-- A's second knock has a nonce of its own. -/
theorem nonce_a₂_ne_b₂ : a₂.payload.nonce ≠ b₂.payload.nonce := by
  simp [b₂, a₂, sampleArrival, Sample.knock]

/-- **One node decides another's verdicts.** With B's nonce in its own
knock, A has B refused; and A's knock 309 s after B's has B's nonce
forgotten, so that B may use it again. -/
theorem verdicts_of_b :
    (verdicts packagesOfTwo "node-b" [a₁, b₁] = [false] ∧
      verdicts packagesOfTwo "node-b" (without "node-a" [a₁, b₁]) = [true]) ∧
    verdicts packagesOfTwo "node-b" [b₁, a₂, b₂] = [true, true] ∧
      verdicts packagesOfTwo "node-b" (without "node-a" [b₁, a₂, b₂]) = [true, false] := by
  have hcalls : without "node-a" [a₁, b₁] = [b₁] ∧ without "node-a" [b₁, a₂, b₂] = [b₁, b₂] :=
    ⟨rfl, rfl⟩
  rw [hcalls.1, hcalls.2]
  simp only [verdicts, trace_cons, trace_nil, receive_of_checks checks_a₁,
    receive_of_checks checks_a₂, receive_of_checks checks_b₁, receive_of_checks checks_b₂]
  refine ⟨⟨?_, ?_⟩, ?_, ?_⟩ <;> decide +kernel

/-- Where A's knock carries a nonce of its own and comes in time, B's
verdict does not depend on it. -/
theorem verdicts_of_b_spared :
    verdicts packagesOfTwo "node-b" (without "node-a" [a₂, b₂]) =
      verdicts packagesOfTwo "node-b" [a₂, b₂] := by
  refine verdicts_without packagesOfTwo [a₂, b₂] "node-a" "node-b" (by decide) ?_
  intro pre a post hsplit hnode _ b hb _
  rcases pre with _ | ⟨first, _ | ⟨second, pre⟩⟩
  · obtain ⟨rfl, rfl⟩ := List.cons.inj hsplit
    obtain rfl := List.mem_singleton.1 hb
    exact ⟨nonce_a₂_ne_b₂, fun t ht => by cases ht⟩
  · -- the second call is B's
    obtain ⟨-, hrest⟩ := List.cons.inj hsplit
    obtain ⟨rfl, -⟩ := List.cons.inj hrest
    simp [b₂, sampleArrival, Sample.knock] at hnode
  · have hlen := congrArg List.length hsplit
    simp at hlen

end TwoNodes

end NhpJwtValidator

end Knock

end NhpSba
