import NhpSba.Common.Fallible
import NhpSba.Knock.Model.Parser
import Mathlib.Algebra.Order.Group.Abs
import Mathlib.Tactic.Linarith
/-!
# Knock — what the parser accepts

One lemma for each model, which says what a value must hold for the model
to be read off it, and from them what `parse` and `full_validate` return.
What is parsed is in range already: after that only the encodings of the
key and the nonce, and the time, can fail.
-/

namespace NhpSba

namespace Knock

variable {M : Schema}

/-! ## Fields -/

theorem constrain_eq_some {α : Type} {p : α → Prop} [DecidablePred p] {x : Option α}
    {a : {a // p a}} : constrain p x = some a ↔ x = some a.1 := by
  cases x with
  | none => simp [constrain]
  | some b =>
    obtain ⟨a, ha⟩ := a
    simp only [constrain, Option.bind_some, Option.some.injEq]
    by_cases h : p b
    · rw [dif_pos h, Option.some.injEq, Subtype.mk.injEq]
    · rw [dif_neg h]
      simp only [reduceCtorEq, false_iff]
      rintro rfl
      exact h ha

/-- Reading a constrained field and going on. -/
theorem constrain_bind_eq_some {α β : Type} {p : α → Prop} [DecidablePred p] {x : Option α}
    {f : {a // p a} → Option β} {b : β} :
    (constrain p x).bind f = some b ↔ ∃ a, ∃ h : p a, x = some a ∧ f ⟨a, h⟩ = some b := by
  simp only [Option.bind_eq_some_iff, constrain_eq_some, Subtype.exists]

/-- Reading a field and going on. -/
theorem field_bind_eq_some {α β : Type} {d : Dict} {k : String} {read : PyValue → Option α}
    {f : α → Option β} {b : β} :
    (field d k read).bind f = some b ↔ ∃ a, field d k read = some a ∧ f a = some b :=
  Option.bind_eq_some_iff

theorem dict?_bind_eq_some {β : Type} {v : PyValue} {f : Dict → Option β} {b : β} :
    v.dict?.bind f = some b ↔ ∃ d, v = .dict d ∧ f d = some b := by
  simp only [Option.bind_eq_some_iff, PyValue.dict?_eq_some]

theorem finite?_eq_some {x : PyFloat} {q : ℚ} : finite? x = some q ↔ x = .finite q := by
  cases x <;> simp [finite?]

/-! ## Models -/

/-- **An impact scope is read** off a `dict` that holds its three fields. -/
theorem ImpactScope.modelValidate_eq_some {v : PyValue} {scope : ImpactScope} :
    ImpactScope.modelValidate M v = some scope ↔
      ∃ d, v = .dict d ∧
        field d "max_subscribers" M.int? = some scope.maxSubscribers ∧
        field d "max_edns_delta" M.float? = some scope.maxEdnsDelta ∧
        field d "domain" PyValue.str? = some scope.domain := by
  simp only [ImpactScope.modelValidate, bind, constrain_bind_eq_some, dict?_bind_eq_some, pure,
    Option.some.injEq]
  constructor
  · rintro ⟨d, rfl, s, _, hs, e, _, he, t, _, ht, rfl⟩
    exact ⟨d, rfl, hs, he, ht⟩
  · rintro ⟨d, rfl, hs, he, ht⟩
    exact ⟨d, rfl, _, scope.maxSubscribers_nonneg, hs, _, scope.maxEdnsDelta_mem, he, _,
      scope.domain_length, ht, rfl⟩

/-- **An intent is read** off a `dict` that holds its four fields. -/
theorem NhpSbaIntent.modelValidate_eq_some {v : PyValue} {intent : NhpSbaIntent} :
    NhpSbaIntent.modelValidate M v = some intent ↔
      ∃ d, v = .dict d ∧
        field d "action_class" PyValue.str? = some intent.actionClass ∧
        field d "target_service" PyValue.str? = some intent.targetService ∧
        field d "impact_scope" (ImpactScope.modelValidate M) = some intent.impactScope ∧
        field d "temporal_bounds" PyValue.dict? = some intent.temporalBounds := by
  simp only [NhpSbaIntent.modelValidate, bind, constrain_bind_eq_some, field_bind_eq_some,
    dict?_bind_eq_some, pure, Option.some.injEq]
  constructor
  · rintro ⟨d, rfl, a, _, ha, t, _, ht, i, hi, b, hb, rfl⟩
    exact ⟨d, rfl, ha, ht, hi, hb⟩
  · rintro ⟨d, rfl, ha, ht, hi, hb⟩
    exact ⟨d, rfl, _, intent.actionClass_mem, ha, _, intent.targetService_length, ht, _, hi, _, hb,
      rfl⟩

/-- **A context is read** off a `dict` that holds its five fields. -/
theorem NhpSbaContext.modelValidate_eq_some {v : PyValue} {context : NhpSbaContext} :
    NhpSbaContext.modelValidate M v = some context ↔
      ∃ d, v = .dict d ∧
        field d "current_edns" M.float? = some context.currentEdns ∧
        field d "current_cei" M.int? = some context.currentCei ∧
        field d "active_alarms" M.int? = some context.activeAlarms ∧
        field d "ongoing_remediations" M.int? = some context.ongoingRemediations ∧
        field d "agent_confidence_score" M.float? = some context.agentConfidenceScore := by
  simp only [NhpSbaContext.modelValidate, bind, constrain_bind_eq_some, dict?_bind_eq_some, pure,
    Option.some.injEq]
  constructor
  · rintro ⟨d, rfl, e, _, he, c, _, hc, a, _, ha, o, _, ho, s, _, hs, rfl⟩
    exact ⟨d, rfl, he, hc, ha, ho, hs⟩
  · rintro ⟨d, rfl, he, hc, ha, ho, hs⟩
    exact ⟨d, rfl, _, context.currentEdns_mem, he, _, context.currentCei_mem, hc, _,
      context.activeAlarms_nonneg, ha, _, context.ongoingRemediations_nonneg, ho, _,
      context.agentConfidenceScore_mem, hs, rfl⟩

/-- **A payload is read** off a `dict` that holds its nine fields. -/
theorem NhpKnkPayload.modelValidate_eq_some {v : PyValue} {payload : NhpKnkPayload} :
    NhpKnkPayload.modelValidate M v = some payload ↔
      ∃ d, v = .dict d ∧
        field d "version" PyValue.str? = some payload.version ∧
        field d "node_id" PyValue.str? = some payload.nodeId ∧
        field d "timestamp" M.int? = some payload.timestamp ∧
        field d "nonce" PyValue.str? = some payload.nonce ∧
        field d "public_key" PyValue.str? = some payload.publicKey ∧
        field d "jws" PyValue.str? = some payload.jws ∧
        field d "nhp_sba_intent" (NhpSbaIntent.modelValidate M) = some payload.nhpSbaIntent ∧
        field d "nhp_sba_context" (NhpSbaContext.modelValidate M) = some payload.nhpSbaContext ∧
        field d "nhp_sba_sat_fragment" PyValue.str? = some payload.nhpSbaSatFragment := by
  simp only [NhpKnkPayload.modelValidate, bind, constrain_bind_eq_some, field_bind_eq_some,
    dict?_bind_eq_some, pure, Option.some.injEq]
  constructor
  · rintro ⟨d, rfl, v, _, hv, i, _, hi, t, _, ht, n, _, hn, k, _, hk, j, _, hj, w, hw, c, hc, f, _,
      hf, rfl⟩
    exact ⟨d, rfl, hv, hi, ht, hn, hk, hj, hw, hc, hf⟩
  · rintro ⟨d, rfl, hv, hi, ht, hn, hk, hj, hw, hc, hf⟩
    exact ⟨d, rfl, _, payload.version_eq, hv, _, payload.nodeId_length, hi, _,
      payload.timestamp_pos, ht, _, payload.nonce_length, hn, _, payload.publicKey_length, hk, _,
      payload.jws_length, hj, _, hw, _, hc, _, payload.nhpSbaSatFragment_length, hf, rfl⟩

/-! ## The parser -/

namespace NhpKnkParser

variable {K J : Type} {R : Runtime K J}

/-- **What `parse` returns** is the payload its models read off the JSON. -/
theorem parse_eq_ok {rawPayload : Bytes} {payload : NhpKnkPayload} :
    parse R M rawPayload = .ok payload ↔
      ∃ data, R.jsonLoads (.inl rawPayload) = .ok data ∧
        NhpKnkPayload.modelValidate M data = some payload := by
  rw [parse]
  cases R.jsonLoads (.inl rawPayload) with
  | error exc => by_cases h : M.isDecodeError rawPayload <;> simp [h]
  | ok data => cases h : NhpKnkPayload.modelValidate M data <;> simp [h]

/-- **What `full_validate` returns** is a payload that is parsed and
accepted. -/
theorem fullValidate_eq_ok {rawPayload : Bytes} {now : ℚ} {payload : NhpKnkPayload} :
    fullValidate R M rawPayload now = .ok payload ↔
      parse R M rawPayload = .ok payload ∧ Accepts R payload now := by
  simp only [fullValidate, bind_eq_ok, Accepts, pure, Except.pure, Except.ok.injEq]
  constructor
  · rintro ⟨p, hparse, _, hschema, _, hnonce, _, htime, rfl⟩
    exact ⟨hparse, hschema, hnonce, htime⟩
  · rintro ⟨hparse, hschema, hnonce, htime⟩
    exact ⟨_, hparse, (), hschema, (), hnonce, (), htime, rfl⟩

/-- A payload passes `validate_schema` when its key is 32 bytes in Base64:
its models have checked the rest. -/
theorem validateSchema_eq_ok {payload : NhpKnkPayload} :
    validateSchema R payload = .ok () ↔
      ∃ bytes, Base64.b64decode payload.publicKey.toList = .ok bytes ∧ bytes.length = 32 := by
  have hversion := payload.version_eq
  have haction := payload.nhpSbaIntent.actionClass_mem
  have hedns := payload.nhpSbaContext.currentEdns_mem
  have hscore := payload.nhpSbaContext.agentConfidenceScore_mem
  simp only [validateSchema]
  rw [if_neg (not_not.2 hversion), if_neg (not_not.2 haction), if_neg (not_not.2 hedns),
    if_neg (not_not.2 hscore)]
  cases Base64.b64decode payload.publicKey.toList with
  | error exc => simp
  | ok bytes => by_cases h : bytes.length = 32 <;> simp [h]

/-- A payload passes `validate_nonce` when its nonce is sixteen bytes or
more in Base64, not all of them zero. -/
theorem validateNonce_eq_ok {payload : NhpKnkPayload} :
    validateNonce payload = .ok () ↔
      ∃ bytes, Base64.b64decode payload.nonce.toList = .ok bytes ∧ 16 ≤ bytes.length ∧
        ∃ b ∈ bytes, b ≠ 0 := by
  rw [validateNonce]
  cases Base64.b64decode payload.nonce.toList with
  | error exc => simp
  | ok bytes =>
    by_cases hlen : bytes.length < 16
    · simp [hlen, Nat.not_le.2 hlen]
    · by_cases hzero : bytes.all (· = 0) = true
      · have hall : ∀ b ∈ bytes, b = 0 := by simpa using hzero
        simp only [hlen, if_false, if_pos hzero, reduceCtorEq, false_iff]
        rintro ⟨_, hbytes, -, b, hb, hne⟩
        obtain rfl := Except.ok.inj hbytes
        exact hne (hall b hb)
      · have hsome : ∃ b ∈ bytes, b ≠ 0 := by simpa using hzero
        simp only [hlen, if_false, if_neg hzero, Except.ok.injEq, true_iff]
        exact ⟨bytes, rfl, Nat.not_lt.1 hlen, hsome⟩

/-- A payload passes `validate_timestamp` when its timestamp is that of a
`float` and at most five minutes from the clock. -/
theorem validateTimestamp_eq_ok {payload : NhpKnkPayload} {now : ℚ} :
    validateTimestamp R payload now = .ok () ↔
      payload.timestamp < floatOverflow ∧ |now - payload.timestamp| ≤ 300 := by
  rw [validateTimestamp]
  by_cases hover : floatOverflow ≤ payload.timestamp
  · simp [hover, Int.not_lt.2 hover]
  · rw [if_neg hover]
    by_cases hfuture : (payload.timestamp : ℚ) > now + 300
    · -- what is too far in the future has drifted too far
      have hdrift : ¬ |now - payload.timestamp| ≤ 300 := by
        rw [abs_le]
        rintro ⟨hlow, -⟩
        linarith
      simp [hfuture, hdrift]
    · by_cases hdrift : |now - payload.timestamp| > 300
      · simp [hfuture, hdrift]
      · simp only [if_neg hfuture, if_neg hdrift, true_iff]
        exact ⟨Int.not_le.1 hover, not_lt.1 hdrift⟩

end NhpKnkParser

end Knock

end NhpSba
