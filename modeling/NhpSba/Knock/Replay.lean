import NhpSba.Common.Guard
import NhpSba.Knock.Validator
import NhpSba.Knock.Accepted
/-!
# Knock — replay protection over whole runs

One validator answers knock after knock. The trust store may change
between two of them, so each knock of a run comes with the store as it then
stands, and what the run itself carries from call to call is the table of
nonces. As a replay guard the validator keeps what is live for 300 s
(`runKeepsLive`); a token passes for some 70 s, and the two together make
every token good for one acceptance (`not_accepted_twice`).
-/

namespace NhpSba

namespace Knock

open Fallible Machine

/-- The table of nonces seen. -/
abbrev NonceTable := AList fun _ : String => ℚ

/-- A knock as the validator meets it: the trust store as it then stands,
the payload, and the clock. -/
structure Arrival (K : Type) where
  trustStore : TrustStore K
  payload : NhpKnkPayload
  clock : ClockReadings

namespace NhpJwtValidator

variable {K J : Type} (R : Runtime K J)

/-- One call of `validate` in a run: the outcome, and the nonces seen after
it. -/
def receive (seen : NonceTable) (k : Arrival K) : Except PyException Dict × NonceTable :=
  let result := call (validate R k.payload k.clock) ⟨k.trustStore, seen⟩
  (result.1, result.2.seenNonces)

/-- The checks an arrival meets before its nonce is looked up. -/
def arrivalChecks (k : Arrival K) : Except PyException Dict :=
  checks R k.trustStore k.payload k.clock.expiration

/-- The validator as a replay guard. -/
def nonceGuard : Guard NonceTable (Arrival K) (Except PyException Dict) String ℚ where
  step := receive R
  key k := k.payload.nonce
  time k := k.clock.nonce
  admitted := succeeded
  holds seen n := n ∈ seen

variable {R}

/-- An arrival that passes the checks is accepted unless its nonce is in
the table. -/
theorem receive_of_checks {k : Arrival K} {claims : Dict} (h : arrivalChecks R k = .ok claims)
    (seen : NonceTable) :
    receive R seen k =
      if k.payload.nonce ∈ seen then (.error (nonceReuse k.payload.nonce), seen)
      else (.ok claims, cleanupNonces k.clock.nonce (seen.insert k.payload.nonce k.clock.nonce)) := by
  unfold arrivalChecks at h
  unfold receive
  simp only [call_validate, h, accept]
  by_cases hseen : k.payload.nonce ∈ seen
  · simp only [if_pos hseen]
  · simp only [if_neg hseen]

/-- An arrival refused by a check. -/
theorem receive_error {seen : NonceTable} {k : Arrival K} {exc : PyException}
    (hchecks : arrivalChecks R k = .error exc) : receive R seen k = (.error exc, seen) := by
  unfold arrivalChecks at hchecks
  unfold receive
  simp only [call_validate, hchecks]

/-- **The three ends of an arrival.** -/
theorem receive_cases (seen : NonceTable) (k : Arrival K) :
    (∃ claims, arrivalChecks R k = .ok claims ∧ k.payload.nonce ∉ seen ∧
      receive R seen k = (.ok claims,
        cleanupNonces k.clock.nonce (seen.insert k.payload.nonce k.clock.nonce))) ∨
    ∃ exc, receive R seen k = (.error exc, seen) := by
  cases hchecks : arrivalChecks R k with
  | error exc => exact Or.inr ⟨exc, receive_error hchecks⟩
  | ok claims =>
    by_cases hseen : k.payload.nonce ∈ seen
    · exact Or.inr ⟨_, (receive_of_checks hchecks seen).trans (if_pos hseen)⟩
    · exact Or.inl ⟨claims, rfl, hseen, (receive_of_checks hchecks seen).trans (if_neg hseen)⟩

/-- An outcome is a success only by the first end. -/
theorem receive_eq_ok {seen : NonceTable} {k : Arrival K} {claims : Dict}
    (h : (receive R seen k).1 = .ok claims) :
    arrivalChecks R k = .ok claims ∧ k.payload.nonce ∉ seen := by
  rcases receive_cases (R := R) seen k with ⟨c, hchecks, hnew, hk⟩ | ⟨exc, hk⟩
  · rw [hk] at h
    obtain rfl : c = claims := by injection h
    exact ⟨hchecks, hnew⟩
  · rw [hk] at h
    cases h

/-- **A refused arrival leaves the table alone.** -/
theorem receive_silent (seen : NonceTable) (k : Arrival K)
    (h : succeeded (receive R seen k).1 = false) : (receive R seen k).2 = seen := by
  rcases receive_cases (R := R) seen k with ⟨c, -, -, hk⟩ | ⟨exc, hk⟩
  · rw [hk] at h
    cases h
  · rw [hk]

/-! ## The validator as a guard -/

theorem mem_iff_lookup {seen : NonceTable} {n : String} :
    n ∈ seen ↔ ∃ ts, seen.lookup n = some ts := by
  rw [← AList.lookup_isSome, Option.isSome_iff_exists]

/-- What is accepted is remembered: its own call's cleanup spares it. -/
theorem nonceGuard_remembers : (nonceGuard R).Remembers := by
  intro seen k hadm
  rcases receive_cases (R := R) seen k with ⟨c, -, -, hk⟩ | ⟨exc, hk⟩
  · change k.payload.nonce ∈ (receive R seen k).2
    rw [hk]
    exact mem_iff_lookup.2 ⟨_, lookup_cleanup_insert_self ..⟩
  · change succeeded (receive R seen k).1 = true at hadm
    rw [hk] at hadm
    cases hadm

/-- What a call does to the stamp of a nonce: it stamps the nonce it
accepts, and keeps or forgets the others by their age. -/
theorem lookup_receive {seen : NonceTable} {k : Arrival K} {n : String} :
    (receive R seen k).2.lookup n =
      if succeeded (receive R seen k).1 then
        if n = k.payload.nonce then some k.clock.nonce
        else (seen.lookup n).filter fun ts => decide (k.clock.nonce ≤ ts + nonceExpirySeconds)
      else seen.lookup n := by
  rcases receive_cases (R := R) seen k with ⟨c, -, -, hk⟩ | ⟨exc, hk⟩
  · rw [hk]
    by_cases hn : n = k.payload.nonce
    · subst hn
      simp [lookup_cleanup_insert_self]
    · simp [hn, lookup_cleanup_insert_ne hn]
  · rw [hk]
    simp

/-- The last call of a run adds itself to the acceptances, if it is one. -/
theorem acceptances_concat (seen : NonceTable) (is : List (Arrival K)) (i : Arrival K) :
    (nonceGuard R).admissions seen (is ++ [i]) = (nonceGuard R).admissions seen is ++
      if succeeded (receive R (after (receive R) seen is) i).1 then
        [(i.payload.nonce, i.clock.nonce)] else [] :=
  Guard.admissions_concat ..

/-- The stamp of a nonce is no earlier than any acceptance of it. -/
def Stamped (hist : List (String × ℚ)) (seen : NonceTable) : Prop :=
  ∀ n ts, seen.lookup n = some ts → ∀ t, (n, t) ∈ hist → t ≤ ts

/-- Stamps never lag behind, in a run whose clock does not go back. -/
theorem stamped_after (seen : NonceTable) {is : List (Arrival K)} (h : (nonceGuard R).Timed is) :
    Stamped ((nonceGuard R).admissions seen is) (after (receive R) seen is) := by
  induction is using List.reverseRecOn with
  | nil => intro n ts _ t ht; cases ht
  | append_singleton is i ih =>
    intro n ts hlook t ht
    rw [after_concat, lookup_receive] at hlook
    rw [acceptances_concat] at ht
    have hpast : ∀ t, (n, t) ∈ (nonceGuard R).admissions seen is → t ≤ i.clock.nonce := by
      intro t ht
      obtain ⟨pre, j, post, rfl, -, rfl, -⟩ := Guard.mem_admissions.1 ht
      exact h.le_last (by simp)
    by_cases hadm : succeeded (receive R (after (receive R) seen is) i).1 = true
    · rw [if_pos hadm] at hlook ht
      by_cases hn : n = i.payload.nonce
      · -- just stamped: everything before is earlier
        rw [if_pos hn, Option.some.injEq] at hlook
        subst hlook
        rcases List.mem_append.1 ht with hold | hnew
        · exact hpast t hold
        · obtain ⟨-, rfl⟩ := Prod.mk.inj (List.mem_singleton.1 hnew)
          exact le_rfl
      · rw [if_neg hn, Option.filter_eq_some_iff] at hlook
        rcases List.mem_append.1 ht with hold | hnew
        · exact ih h.left n ts hlook.1 t hold
        · exact absurd (Prod.mk.inj (List.mem_singleton.1 hnew)).1 hn
    · rw [if_neg hadm] at hlook ht
      rw [List.append_nil] at ht
      exact ih h.left n ts hlook t ht

/-- **Every call keeps what is live**: only nonces stamped more than 300 s
ago are forgotten, and a nonce that is there is refused. -/
theorem runKeepsLive {seen : NonceTable} {is : List (Arrival K)} (h : (nonceGuard R).Timed is) :
    (nonceGuard R).RunKeepsLive nonceExpirySeconds seen is := by
  rintro pre i post rfl n ⟨t, ht, hlive⟩ hheld
  have hstamped : Stamped ((nonceGuard R).admissions seen pre) (after (receive R) seen pre) :=
    stamped_after seen h.left
  obtain ⟨ts, hts⟩ := mem_iff_lookup.1 hheld
  have hle : t ≤ ts := hstamped n ts hts t ht
  change i.clock.nonce ≤ t + nonceExpirySeconds at hlive
  -- the sweep spares what is live, and the lookup refuses it
  refine ⟨mem_iff_lookup.2 ?_, fun hkey => ?_⟩
  · change ∃ ts, (receive R (after (receive R) seen pre) i).2.lookup n = some ts
    rw [lookup_receive]
    by_cases hadm : succeeded (receive R (after (receive R) seen pre) i).1 = true
    · rw [if_pos hadm]
      by_cases hn : n = i.payload.nonce
      · exact ⟨_, if_pos hn⟩
      · refine ⟨ts, ?_⟩
        rw [if_neg hn, Option.filter_eq_some_iff]
        have : i.clock.nonce ≤ ts + nonceExpirySeconds := by linarith
        exact ⟨hts, decide_eq_true this⟩
    · rw [if_neg hadm]
      exact ⟨ts, hts⟩
  · change i.payload.nonce = n at hkey
    subst hkey
    change succeeded (receive R (after (receive R) seen pre) i).1 = false
    rw [Bool.eq_false_iff]
    intro hadm
    obtain ⟨claims, hok⟩ := succeeded_iff.1 hadm
    exact (receive_eq_ok hok).2 hheld

/-! ## One acceptance for each payload -/

/-- The clock does not go back, from reading to reading. -/
def ClockForward (calls : List (Arrival K)) : Prop :=
  (calls.flatMap fun k => [k.clock.expiration, k.clock.nonce]).Pairwise (· ≤ ·)

theorem ClockForward.timed {calls : List (Arrival K)} (h : ClockForward calls) :
    (nonceGuard R).Timed calls := by
  obtain ⟨-, hpairs⟩ := List.pairwise_flatMap.1 h
  exact hpairs.imp fun hab => hab _ (List.mem_cons_of_mem _ (List.mem_singleton_self _)) _
    (List.mem_cons_of_mem _ (List.mem_singleton_self _))

theorem ClockForward.within {calls : List (Arrival K)} (h : ClockForward calls) {k : Arrival K}
    (hk : k ∈ calls) : k.clock.expiration ≤ k.clock.nonce := by
  obtain ⟨hself, -⟩ := List.pairwise_flatMap.1 h
  exact List.rel_of_pairwise_cons (hself k hk) (by simp)

theorem ClockForward.before {pre post : List (Arrival K)} {j : Arrival K}
    (h : ClockForward (pre ++ j :: post)) {i : Arrival K} (hi : i ∈ pre) :
    i.clock.nonce ≤ j.clock.expiration := by
  obtain ⟨-, hpairs⟩ := List.pairwise_flatMap.1 h
  exact (List.pairwise_append.1 hpairs).2.2 i hi j (by simp) _ (by simp) _ (by simp)

/-- The claims a payload passes with are those of its token. -/
theorem claims_unique {a b : Arrival K} {claims claims' : Dict}
    (ha : arrivalChecks R a = .ok claims) (hb : arrivalChecks R b = .ok claims')
    (hpayload : a.payload = b.payload) : claims = claims' := by
  obtain ⟨key, hkey, -, hjws, -⟩ := checks_eq_ok.1 ha
  obtain ⟨key', hkey', -, hjws', -⟩ := checks_eq_ok.1 hb
  rw [hpayload, hkey'] at hkey
  obtain rfl : key' = key := by injection hkey
  rw [hpayload, hjws'] at hjws
  injection hjws with h
  exact h.symm

/-- What an accepted payload says of the clock, where its `exp` is finite. -/
theorem expiry_of_checks {k : Arrival K} {claims : Dict} {exp : ℚ}
    (h : arrivalChecks R k = .ok claims) (hexp : expClaim claims = some (.finite exp)) :
    k.clock.expiration - 6 < exp ∧ exp < k.clock.expiration + 67 := by
  obtain ⟨-, -, -, -, -, -, hvalid, -⟩ := checks_eq_ok.1 h
  obtain ⟨hlow, hhigh⟩ := (validateExpiration_finite hexp).1 hvalid
  exact ⟨(minAllowedExp_near _).1.trans_le hlow, hhigh.trans_lt (maxAllowedExp_near _).2⟩

/-- **No payload with a finite `exp` is accepted twice**, at whatever
times, by one validator in one run, and whatever becomes of the trust
store in between. A second acceptance would come within 73 s of the first,
while the nonce is still in the table. -/
theorem not_accepted_twice (R : Runtime K J) (seen : NonceTable) (calls : List (Arrival K))
    (hclock : ClockForward calls) :
    (trace (receive R) seen calls).Pairwise fun a b => ∀ claims exp, a.2 = .ok claims →
      expClaim claims = some (.finite exp) → a.1.payload = b.1.payload →
        succeeded b.2 = false := by
  refine pairwise_trace fun pre i mid j post hsplit claims exp hi hexp hpayload => ?_
  have hsplit' : calls = (pre ++ i :: mid) ++ j :: post := by rw [hsplit]; simp
  change i.payload = j.payload at hpayload
  rw [Bool.eq_false_iff]
  intro hj
  obtain ⟨claims', hj⟩ := succeeded_iff.1 hj
  obtain ⟨hjchecks, hjnew⟩ := receive_eq_ok hj
  have hichecks := (receive_eq_ok hi).1
  obtain rfl := claims_unique hichecks hjchecks hpayload
  -- the two readings at the expiration check are within 73 s
  have hihigh := (expiry_of_checks hichecks hexp).2
  have hjlow := (expiry_of_checks hjchecks hexp).1
  have hiwithin : i.clock.expiration ≤ i.clock.nonce := hclock.within (by rw [hsplit]; simp)
  -- so the nonce is live when the second call begins, and still in the table
  rw [hsplit'] at hclock
  have hkeep : (nonceGuard R).RunKeepsLive nonceExpirySeconds seen (pre ++ i :: mid) :=
    runKeepsLive hclock.timed.left
  refine hjnew (Guard.retains_after nonceGuard_remembers hkeep (fun k hk => hclock.before hk)
    ⟨i.clock.nonce, ?_, ?_⟩)
  · refine Guard.mem_admissions.2 ⟨pre, i, mid, rfl, ?_, rfl, ?_⟩
    · exact congrArg NhpKnkPayload.nonce hpayload
    · exact succeeded_iff.2 ⟨claims, hi⟩
  · simp only [nonceExpirySeconds]
    linarith

/-- Two nodes, each trusted with its key. -/
def twoNodes : TrustStore Bytes := Sample.store [("node-a", 1), ("node-b", 2)]

theorem lookup_nodeA : twoNodes.keyBytesMap.lookup "node-a" = some (Sample.key 1) := by
  rw [twoNodes, Sample.store]
  simp only [List.foldl_cons, List.foldl_nil, TrustStore.put]
  rw [AList.lookup_insert_ne (by decide), AList.lookup_insert]

theorem lookup_nodeB : twoNodes.keyBytesMap.lookup "node-b" = some (Sample.key 2) := by
  rw [twoNodes, Sample.store]
  simp only [List.foldl_cons, List.foldl_nil, TrustStore.put]
  rw [AList.lookup_insert]

/-- A sample knock, met at a reading of the clock by a validator that
trusts the two nodes. -/
def sampleArrival (nodeId nonce : String) (byte : UInt8) (issued : ℤ)
    (h : (1 ≤ nodeId.length ∧ nodeId.length ≤ 256) ∧ (16 ≤ nonce.length ∧ nonce.length ≤ 64) ∧
      0 < issued) (reading : ℚ) : Arrival Bytes where
  trustStore := twoNodes
  payload := Sample.knock nodeId nonce byte issued 0 h.1 h.2.1 h.2.2
  clock := ⟨reading, reading⟩

theorem knockOfA_valid : (1 ≤ "node-a".length ∧ "node-a".length ≤ 256) ∧
    (16 ≤ "c2FtcGxlIG5vbmNlIDAwMQ==".length ∧ "c2FtcGxlIG5vbmNlIDAwMQ==".length ≤ 64) ∧
      (0 : ℤ) < 1700000000 :=
  ⟨by decide +kernel, Sample.nonce_length, Sample.issued_pos⟩

/-- A knock of node A's, at a reading of the clock. -/
def knockOfA : ℚ → Arrival Bytes :=
  sampleArrival "node-a" "c2FtcGxlIG5vbmNlIDAwMQ==" 1 1700000000 knockOfA_valid

/-- The packages, for that knock. -/
def packagesOfA : Runtime Bytes String :=
  Sample.packages [Sample.claims "node-a" "c2FtcGxlIG5vbmNlIDAwMQ==" 1700000000 0]

theorem knockOfA_checks (reading : ℚ) (hfrom : 1700000000 ≤ reading + 5)
    (hto : reading ≤ 1700000065) : arrivalChecks packagesOfA (knockOfA reading) =
      .ok (Sample.claimItems "node-a" "c2FtcGxlIG5vbmNlIDAwMQ==" 1700000000 0) := by
  have hdistinct : ((Sample.header :: [Sample.claims "node-a" "c2FtcGxlIG5vbmNlIDAwMQ==" 1700000000
      0]).map (Sample.dumps 2)).Nodup := by decide +kernel
  exact Sample.checks_knock hdistinct List.mem_cons_self lookup_nodeA (by exact_mod_cast hfrom)
    (by norm_num; exact hto)

/-- The knock is accepted once, and 40 s later it is refused. -/
theorem knockOfA_not_accepted_twice :
    succeeded (receive packagesOfA ∅ (knockOfA 1700000001)).1 = true ∧
      (trace (receive packagesOfA) ∅ [knockOfA 1700000001, knockOfA 1700000041]).Pairwise
        fun a b => ∀ claims exp, a.2 = .ok claims → expClaim claims = some (.finite exp) →
          a.1.payload = b.1.payload → succeeded b.2 = false := by
  refine ⟨?_, not_accepted_twice packagesOfA ∅ _ ?_⟩
  · rw [receive_of_checks (knockOfA_checks _ (by norm_num) (by norm_num))]
    rfl
  · have hle : (1700000001 : ℚ) ≤ 1700000041 := by norm_num
    simp [ClockForward, knockOfA, sampleArrival, hle]

/-! ## One acceptance for each token -/

/-- A nonce accepted at most 300 s before a call begins is in the table
then. -/
theorem mem_after_of_accepted {seen : NonceTable} {pre mid post : List (Arrival K)}
    {i j : Arrival K} (hclock : ClockForward ((pre ++ i :: mid) ++ j :: post))
    (hi : succeeded (receive R (after (receive R) seen pre) i).1 = true)
    (hlive : j.clock.expiration ≤ i.clock.nonce + nonceExpirySeconds) :
    i.payload.nonce ∈ after (receive R) seen (pre ++ i :: mid) := by
  have hkeep : (nonceGuard R).RunKeepsLive nonceExpirySeconds seen (pre ++ i :: mid) :=
    runKeepsLive hclock.timed.left
  have hadmission : (i.payload.nonce, i.clock.nonce) ∈
      (nonceGuard R).admissions seen (pre ++ i :: mid) :=
    Guard.mem_admissions.2 ⟨pre, i, mid, rfl, rfl, rfl, hi⟩
  exact Guard.retains_after nonceGuard_remembers hkeep (fun k hk => hclock.before hk)
    ⟨i.clock.nonce, hadmission, hlive⟩

/-- The nonce a payload passes with is the signed one. -/
theorem nonce_of_checks {k : Arrival K} {claims : Dict} (h : arrivalChecks R k = .ok claims) :
    claims.get "nonce" = .str k.payload.nonce := by
  obtain ⟨-, -, -, -, -, -, -, -, hcross⟩ := checks_eq_ok.1 h
  exact (crossValidate_eq_ok.1 hcross).2.2

/-- **A token is good for one acceptance.** No claims with a finite `exp`
are accepted twice in one run, whatever payloads bring them: the payloads
have the signed nonce in common. -/
theorem claims_accepted_once (R : Runtime K J) (seen : NonceTable) {calls : List (Arrival K)}
    (hclock : ClockForward calls) :
    (trace (receive R) seen calls).Pairwise fun a b => ∀ claims exp, a.2 = .ok claims →
      expClaim claims = some (.finite exp) → b.2 ≠ .ok claims := by
  refine pairwise_trace fun pre i mid j post hsplit claims exp hi hexp hj => ?_
  have hsplit' : calls = (pre ++ i :: mid) ++ j :: post := by rw [hsplit]; simp
  change (receive R (after (receive R) seen pre) i).1 = .ok claims at hi
  change (receive R (after (receive R) seen (pre ++ i :: mid)) j).1 = .ok claims at hj
  obtain ⟨hichecks, -⟩ := receive_eq_ok hi
  obtain ⟨hjchecks, hjnew⟩ := receive_eq_ok hj
  have hnonce : i.payload.nonce = j.payload.nonce :=
    PyValue.str.inj ((nonce_of_checks hichecks).symm.trans (nonce_of_checks hjchecks))
  -- the token is valid for some 70 s, and the nonce is kept for longer
  have hihigh := (expiry_of_checks hichecks hexp).2
  have hjlow := (expiry_of_checks hjchecks hexp).1
  have hiwithin : i.clock.expiration ≤ i.clock.nonce := hclock.within (by rw [hsplit]; simp)
  have hlive : j.clock.expiration ≤ i.clock.nonce + nonceExpirySeconds := by
    simp only [nonceExpirySeconds]
    linarith
  rw [hsplit'] at hclock
  have hheld := mem_after_of_accepted hclock (succeeded_iff.2 ⟨claims, hi⟩) hlive
  rw [hnonce] at hheld
  exact hjnew hheld

/-! ## Refused knocks -/

/-- **Refused knocks leave no trace.** A call that raises leaves the whole
validator as it was; so, deleting from a run any calls that raised, each of
the others keeps its outcome. -/
theorem rejected_leaves_no_trace (R : Runtime K J) :
    (∀ (v : NhpJwtValidator K) (payload : NhpKnkPayload) (clock : ClockReadings),
      (∃ exc, (call (validate R payload clock) v).1 = .error exc) →
        (call (validate R payload clock) v).2 = v) ∧
    ∀ (seen : NonceTable) (calls : List (Arrival K))
      (kept : List (Arrival K × Except PyException Dict)),
      kept.Sublist (trace (receive R) seen calls) →
      kept.filter (fun x => succeeded x.2) =
        (trace (receive R) seen calls).filter (fun x => succeeded x.2) →
      trace (receive R) seen (kept.map Prod.fst) = kept :=
  ⟨fun _ _ _ ⟨_, h⟩ => call_validate_error h,
    fun _ _ _ hsub hkept => trace_of_sublist receive_silent hsub hkept⟩

/-- After an accepted call, a refused one may be deleted. -/
theorem filter_accepted_refused {seen : NonceTable} {k k' : Arrival K}
    (hok : succeeded (receive R seen k).1 = true)
    (hrefused : succeeded (receive R (receive R seen k).2 k').1 = false) :
    [(k, (receive R seen k).1)].filter (fun x => succeeded x.2) =
      (trace (receive R) seen [k, k']).filter (fun x => succeeded x.2) := by
  simp [hok, hrefused]

/-- A validator that has seen the nonce refuses the knock and stays as it
was; and the refused second call may be deleted from the run. -/
theorem knockOfA_leaves_no_trace :
    (call (validate packagesOfA (knockOfA 1700000041).payload ⟨1700000041, 1700000041⟩)
        ⟨twoNodes, (∅ : NonceTable).insert "c2FtcGxlIG5vbmNlIDAwMQ==" 1700000001⟩).2 =
      ⟨twoNodes, (∅ : NonceTable).insert "c2FtcGxlIG5vbmNlIDAwMQ==" 1700000001⟩ ∧
    trace (receive packagesOfA) ∅ [knockOfA 1700000001] =
      [(knockOfA 1700000001, (receive packagesOfA ∅ (knockOfA 1700000001)).1)] := by
  have hfirst := knockOfA_checks 1700000001 (by norm_num) (by norm_num)
  have hsecond := knockOfA_checks 1700000041 (by norm_num) (by norm_num)
  -- the first call is accepted and the second finds its nonce in the table
  have hok : succeeded (receive packagesOfA ∅ (knockOfA 1700000001)).1 = true := by
    rw [receive_of_checks hfirst]
    rfl
  have hrefused : succeeded (receive packagesOfA
      (receive packagesOfA ∅ (knockOfA 1700000001)).2 (knockOfA 1700000041)).1 = false := by
    rw [receive_of_checks hfirst, receive_of_checks hsecond]
    decide +kernel
  have hseen : (knockOfA 1700000041).payload.nonce ∈
      (∅ : NonceTable).insert "c2FtcGxlIG5vbmNlIDAwMQ==" 1700000001 :=
    (AList.mem_insert _).2 (Or.inl rfl)
  exact ⟨(rejected_leaves_no_trace packagesOfA).1 _ _ _ ⟨_, call_validate_seen hsecond hseen⟩,
    (rejected_leaves_no_trace packagesOfA).2 ∅ [knockOfA 1700000001, knockOfA 1700000041]
      [(knockOfA 1700000001, (receive packagesOfA ∅ (knockOfA 1700000001)).1)]
      (List.Sublist.cons_cons _ (List.nil_sublist _)) (filter_accepted_refused hok hrefused)⟩

end NhpJwtValidator

end Knock

end NhpSba
