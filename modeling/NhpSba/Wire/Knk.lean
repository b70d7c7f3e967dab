import NhpSba.Knock.Agent
import NhpSba.Python.Json
import NhpSba.Wire.Model.Knk
/-!
# One knock, two readers

The server and the enforcement point each read a knock with models of
their own. Field by field, this file says which documents the enforcement
point takes for what the server took them for; `readAlike_iff` puts the
fields together.
-/

namespace NhpSba

namespace Wire

open Rust Serde

/-! ## Fields -/

section Fields

variable {α β : Type} {float : String → PyFloat}

/-- **Two readers of one value.** What the server reads as `a` is read by
the enforcement point, and as the same, exactly under `P`. -/
def AgreeWhen (float : String → PyFloat) (convert : PyValue → Option α)
    (deserialize : Json → Option β) (same : α → β → Prop) (P : Json → Prop) : Prop :=
  ∀ v a, convert (v.toPy float) = some a → ((∃ b, deserialize v = some b ∧ same a b) ↔ P v)

/-- A field that stands once, with a value of a kind. -/
def Once (P : Json → Prop) (members : List (String × Json)) (name : String) : Prop :=
  ∃ v, Json.named members name = [v] ∧ P v

/-- **A field is read alike** when it stands once and its value is. -/
theorem AgreeWhen.field {convert : PyValue → Option α} {deserialize : Json → Option β}
    {same : α → β → Prop} {P : Json → Prop} (h : AgreeWhen float convert deserialize same P)
    {members : List (String × Json)} {name : String} {a : α}
    (hfield : Knock.field (Dict.ofItems (Json.toPyMembers float members)) name convert = some a) :
    (∃ b, field? members name deserialize = some b ∧ same a b) ↔ Once P members name := by
  rw [Knock.field, Json.lookup_toPy_obj] at hfield
  -- the server read the last of the name, which is the only one on either side
  constructor
  · rintro ⟨b, hb, hsame⟩
    rw [field?] at hb
    split at hb
    · next v hnamed =>
      rw [Json.last_of_named hnamed] at hfield
      exact ⟨v, hnamed, (h v a hfield).1 ⟨b, hb, hsame⟩⟩
    · cases hb
  · rintro ⟨v, hnamed, hv⟩
    rw [Json.last_of_named hnamed] at hfield
    obtain ⟨b, hb, hsame⟩ := (h v a hfield).2 hv
    refine ⟨b, ?_, hsame⟩
    rw [field?, hnamed]
    exact hb

end Fields

/-! ## Values -/

section Values

variable {float : String → PyFloat} {M : Knock.Schema} {D : Serde} {v : Json}

/-- An unsigned literal of a width. -/
def Unsigned (bits : ℕ) (v : Json) : Prop := ∃ n < 2 ^ bits, v = .int false n

/-- A number literal that the two readers take for the same number. -/
def SameNumber (D : Serde) (float : String → PyFloat) (v : Json) : Prop :=
  ∃ q, D.f64? v = some q ∧ (v.toPy float).number? = some (.finite q)

/-- Bounds of which every member is a `u64`, whether the last of its name
or not. -/
def U64Bounds (v : Json) : Prop :=
  ∃ members, v = .obj members ∧ ∀ m ∈ members, Unsigned 64 m.2

theorem string?_eq_some {s : String} : string? v = some s ↔ v = .str s := by
  cases v <;> simp [string?]

theorem members?_eq_some {members : List (String × Json)} :
    members? v = some members ↔ v = .obj members := by
  cases v <;> simp [members?]

theorem unsigned?_eq_some {bits n : ℕ} :
    unsigned? bits v = some n ↔ v = .int false n ∧ n < 2 ^ bits := by
  match v with
  | .int false m =>
    rw [unsigned?]
    by_cases hm : m < 2 ^ bits
    · rw [if_pos hm, Option.some.injEq]
      constructor
      · rintro rfl
        exact ⟨rfl, hm⟩
      · rintro ⟨h, -⟩
        injection h
    · rw [if_neg hm]
      simp only [reduceCtorEq, false_iff, not_and]
      intro h
      injection h with _ h
      exact h ▸ hm
  | .int true _ | .null | .bool _ | .decimal _ | .str _ | .arr _ | .obj _ => simp [unsigned?]

theorem u32?_eq_some {n : UInt32} : u32? v = some n ↔ v = .int false n.toNat := by
  rw [u32?, Option.map_eq_some_iff]
  constructor
  · rintro ⟨m, hm, rfl⟩
    obtain ⟨rfl, hlt⟩ := unsigned?_eq_some.1 hm
    rw [UInt32.toNat_ofNat_of_lt' hlt]
  · rintro rfl
    exact ⟨n.toNat, unsigned?_eq_some.2 ⟨rfl, n.toNat_lt⟩, UInt32.ofNat_toNat⟩

theorem u64?_eq_some {n : UInt64} : u64? v = some n ↔ v = .int false n.toNat := by
  rw [u64?, Option.map_eq_some_iff]
  constructor
  · rintro ⟨m, hm, rfl⟩
    obtain ⟨rfl, hlt⟩ := unsigned?_eq_some.1 hm
    rw [UInt64.toNat_ofNat_of_lt' hlt]
  · rintro rfl
    exact ⟨n.toNat, unsigned?_eq_some.2 ⟨rfl, n.toNat_lt⟩, UInt64.ofNat_toNat⟩

/-- A string is read alike, always. -/
theorem agree_string :
    AgreeWhen float PyValue.str? string? (fun a b => a = b) fun _ => True := by
  intro v s hs
  have hv : v = .str s := Json.toPy_eq_str (PyValue.str?_eq_some.1 hs)
  rw [iff_true]
  exact ⟨s, string?_eq_some.2 hv, rfl⟩

/-- An integer is read alike when it is written as an unsigned one that
fits. The server also takes a sign, and any size. -/
theorem agree_u32 :
    AgreeWhen float M.int? u32? (fun a b => a = (b.toNat : ℤ)) (Unsigned 32) := by
  intro v z hz
  constructor
  · rintro ⟨n, hn, -⟩
    exact ⟨n.toNat, n.toNat_lt, u32?_eq_some.1 hn⟩
  · rintro ⟨n, hlt, rfl⟩
    have hn : (UInt32.ofNat n).toNat = n := UInt32.toNat_ofNat_of_lt' hlt
    refine ⟨UInt32.ofNat n, u32?_eq_some.2 (by rw [hn]), ?_⟩
    have hz' : (n : ℤ) = z := Option.some.inj hz
    change z = ((UInt32.ofNat n).toNat : ℤ)
    rw [hn, hz']

/-- The number that a literal is, once the server has read it. -/
theorem number?_of_float? {q : ℚ} {b : F64} (hq : M.float? (v.toPy float) = some q)
    (hb : D.f64? v = some b) : (v.toPy float).number? = some (.finite q) := by
  -- a literal without a fraction is an `int` to the server, any other a `float`
  cases v with
  | int negative n =>
    have h := Option.some.inj hq
    rw [Json.toPy, PyValue.number?, h]
  | decimal literal =>
    have h : Knock.finite? (float literal) = some q := hq
    rw [Json.toPy, PyValue.number?, Knock.finite?_eq_some.1 h]
  | _ => cases hb

/-- A score is read alike when it is a literal that is. -/
theorem agree_f64 :
    AgreeWhen float M.float? D.f64? (fun a b => a = b) (SameNumber D float) := by
  intro v q hq
  constructor
  · rintro ⟨_, hb, rfl⟩
    exact ⟨q, hb, number?_of_float? hq hb⟩
  · rintro ⟨q', hb, hnumber⟩
    have h := number?_of_float? hq hb
    rw [hnumber] at h
    obtain rfl := PyFloat.finite.inj (Option.some.inj h)
    exact ⟨q', hb, rfl⟩

end Values

/-! ## Maps -/

section Maps

variable {α : Type} {deserialize : Json → Option α}

/-- The loop that fills a map. -/
def insertAll (deserialize : Json → Option α) (members : List (String × Json)) :
    Option (AList fun _ : String => α) :=
  members.foldlM (fun map m => (deserialize m.2).map fun a => map.insert m.1 a) ∅

theorem insertAll_concat (members : List (String × Json)) (m : String × Json) :
    insertAll deserialize (members ++ [m]) =
      (insertAll deserialize members).bind fun map =>
        (deserialize m.2).map fun a => map.insert m.1 a := by
  rw [insertAll, List.foldlM_append]
  simp only [List.foldlM_cons, List.foldlM_nil, bind_pure]
  rfl

/-- **A map holds the last value of each name**, and every value of every
name was read. -/
theorem insertAll_eq_some {members : List (String × Json)} {map : AList fun _ : String => α}
    (h : insertAll deserialize members = some map) :
    (∀ m ∈ members, ∃ a, deserialize m.2 = some a) ∧
      ∀ name, map.lookup name = (Json.last members name).bind deserialize := by
  induction members using List.reverseRecOn generalizing map with
  | nil =>
    obtain rfl := Option.some.inj h
    exact ⟨fun m hm => absurd hm List.not_mem_nil, fun name => rfl⟩
  | append_singleton members m ih =>
    -- the last member is inserted over those of its name before it
    rw [insertAll_concat] at h
    obtain ⟨before, hbefore, hm⟩ := Option.bind_eq_some_iff.1 h
    obtain ⟨a, ha, rfl⟩ := Option.map_eq_some_iff.1 hm
    obtain ⟨hread, hlookup⟩ := ih hbefore
    constructor
    · intro m' hm'
      rcases List.mem_append.1 hm' with hm' | hm'
      · exact hread m' hm'
      · obtain rfl := List.mem_singleton.1 hm'
        exact ⟨a, ha⟩
    · intro name
      rw [Json.last_concat]
      by_cases hname : m.1 = name
      · subst hname
        rw [AList.lookup_insert, if_pos rfl]
        exact ha.symm
      · rw [AList.lookup_insert_ne fun heq => hname heq.symm, if_neg hname, hlookup]

/-- Where every value is read, there is a map. -/
theorem exists_insertAll {members : List (String × Json)}
    (h : ∀ m ∈ members, ∃ a, deserialize m.2 = some a) :
    ∃ map, insertAll deserialize members = some map := by
  induction members using List.reverseRecOn with
  | nil => exact ⟨∅, rfl⟩
  | append_singleton members m ih =>
    obtain ⟨map, hmap⟩ := ih fun m' hm' => h m' (List.mem_append_left _ hm')
    obtain ⟨a, ha⟩ := h m (List.mem_append_right _ (List.mem_singleton_self m))
    refine ⟨map.insert m.1 a, ?_⟩
    rw [insertAll_concat, hmap, Option.bind_some, ha]
    rfl

end Maps

/-- The server's time bounds and the enforcement point's hold the same
integers under the same names. -/
def SameBounds (p : Dict) (r : AList fun _ : String => UInt64) : Prop :=
  ∀ name, p.lookup name = (r.lookup name).map fun n => .int n.toNat

/-- **Time bounds are read alike** when every member is a `u64`. The server
takes any `dict`. -/
theorem agree_bounds {float : String → PyFloat} :
    AgreeWhen float PyValue.dict? (hashMap? u64?) SameBounds U64Bounds := by
  intro v d hd
  obtain ⟨members, rfl, rfl⟩ := Json.toPy_eq_dict (PyValue.dict?_eq_some.1 hd)
  have hmap : hashMap? u64? (.obj members) = insertAll u64? members := rfl
  rw [hmap]
  constructor
  · rintro ⟨map, hread, -⟩
    refine ⟨members, rfl, fun m hm => ?_⟩
    obtain ⟨n, hn⟩ := (insertAll_eq_some hread).1 m hm
    exact ⟨n.toNat, n.toNat_lt, u64?_eq_some.1 hn⟩
  · rintro ⟨_, heq, hall⟩
    obtain rfl := Json.obj.inj heq
    have hu64 : ∀ m ∈ members, ∃ n, u64? m.2 = some n := by
      intro m hm
      obtain ⟨n, hlt, hn⟩ := hall m hm
      refine ⟨UInt64.ofNat n, u64?_eq_some.2 ?_⟩
      rw [hn, UInt64.toNat_ofNat_of_lt' hlt]
    obtain ⟨map, hread⟩ := exists_insertAll hu64
    refine ⟨map, hread, fun name => ?_⟩
    rw [Json.lookup_toPy_obj, (insertAll_eq_some hread).2]
    -- of members of one name both readers keep the last
    cases hlast : Json.last members name with
    | none => rfl
    | some w =>
      obtain ⟨n, hn⟩ := hu64 (name, w) (Json.mem_of_last hlast)
      have hw : w = .int false n.toNat := u64?_eq_some.1 hn
      rw [Option.map_some, Option.bind_some, hn, hw]
      rfl

/-! ## Models -/

/-- The two impact scopes are equal. -/
structure ImpactScope.Mirrors (p : Knock.ImpactScope) (r : ImpactScope) : Prop where
  maxSubscribers : p.maxSubscribers = (r.maxSubscribers.toNat : ℤ)
  maxEdnsDelta : p.maxEdnsDelta = r.maxEdnsDelta
  domain : p.domain = r.domain

/-- The two intents are equal. -/
structure NhpSbaIntent.Mirrors (p : Knock.NhpSbaIntent) (r : NhpSbaIntent) : Prop where
  actionClass : p.actionClass = r.actionClass
  targetService : p.targetService = r.targetService
  impactScope : ImpactScope.Mirrors p.impactScope r.impactScope
  temporalBounds : SameBounds p.temporalBounds r.temporalBounds

/-- The two contexts are equal. -/
structure NhpSbaContext.Mirrors (p : Knock.NhpSbaContext) (r : NhpSbaContext) : Prop where
  currentEdns : p.currentEdns = r.currentEdns
  currentCei : p.currentCei = (r.currentCei.toNat : ℤ)
  activeAlarms : p.activeAlarms = (r.activeAlarms.toNat : ℤ)
  ongoingRemediations : p.ongoingRemediations = (r.ongoingRemediations.toNat : ℤ)
  agentConfidenceScore : p.agentConfidenceScore = r.agentConfidenceScore

/-- **The enforcement point's payload mirrors the server's**, in the fields
it has. -/
structure NhpKnkPayload.Mirrors (p : Knock.NhpKnkPayload) (r : NhpKnkPayload) : Prop where
  nhpSbaIntent : NhpSbaIntent.Mirrors p.nhpSbaIntent r.nhpSbaIntent
  nhpSbaContext : NhpSbaContext.Mirrors p.nhpSbaContext r.nhpSbaContext
  nhpSbaSatFragment : p.nhpSbaSatFragment = r.nhpSbaSatFragment

section Models

variable {float : String → PyFloat} {M : Knock.Schema} {D : Serde} {v : Json}

/-- An impact scope that both readers read alike: each field of the struct
once, a subscriber count that fits, a delta that is the same number. -/
def SharedScope (D : Serde) (float : String → PyFloat) (v : Json) : Prop :=
  ∃ members, v = .obj members ∧
    Once (Unsigned 32) members "max_subscribers" ∧
    Once (SameNumber D float) members "max_edns_delta" ∧
    Once (fun _ => True) members "domain"

/-- An intent that both readers read alike. -/
def SharedIntent (D : Serde) (float : String → PyFloat) (v : Json) : Prop :=
  ∃ members, v = .obj members ∧
    Once (fun _ => True) members "action_class" ∧
    Once (fun _ => True) members "target_service" ∧
    Once (SharedScope D float) members "impact_scope" ∧
    Once U64Bounds members "temporal_bounds"

/-- A context that both readers read alike. -/
def SharedContext (D : Serde) (float : String → PyFloat) (v : Json) : Prop :=
  ∃ members, v = .obj members ∧
    Once (SameNumber D float) members "current_edns" ∧
    Once (Unsigned 32) members "current_cei" ∧
    Once (Unsigned 32) members "active_alarms" ∧
    Once (Unsigned 32) members "ongoing_remediations" ∧
    Once (SameNumber D float) members "agent_confidence_score"

/-- A knock that both readers read alike. -/
def SharedKnock (D : Serde) (float : String → PyFloat) (v : Json) : Prop :=
  ∃ members, v = .obj members ∧
    Once (SharedIntent D float) members "nhp_sba_intent" ∧
    Once (SharedContext D float) members "nhp_sba_context" ∧
    Once (fun _ => True) members "nhp_sba_sat_fragment"

theorem ImpactScope.deserialize_eq_some {r : ImpactScope} :
    ImpactScope.deserialize D v = some r ↔
      ∃ members, v = .obj members ∧
        field? members "max_subscribers" u32? = some r.maxSubscribers ∧
        field? members "max_edns_delta" D.f64? = some r.maxEdnsDelta ∧
        field? members "domain" string? = some r.domain := by
  simp only [ImpactScope.deserialize, bind, Option.bind_eq_some_iff, members?_eq_some, pure,
    Option.some.injEq]
  constructor
  · rintro ⟨members, rfl, _, hs, _, he, _, hd, rfl⟩
    exact ⟨members, rfl, hs, he, hd⟩
  · rintro ⟨members, rfl, hs, he, hd⟩
    exact ⟨members, rfl, _, hs, _, he, _, hd, rfl⟩

theorem NhpSbaIntent.deserialize_eq_some {r : NhpSbaIntent} :
    NhpSbaIntent.deserialize D v = some r ↔
      ∃ members, v = .obj members ∧
        field? members "action_class" string? = some r.actionClass ∧
        field? members "target_service" string? = some r.targetService ∧
        field? members "impact_scope" (ImpactScope.deserialize D) = some r.impactScope ∧
        field? members "temporal_bounds" (hashMap? u64?) = some r.temporalBounds := by
  simp only [NhpSbaIntent.deserialize, bind, Option.bind_eq_some_iff, members?_eq_some, pure,
    Option.some.injEq]
  constructor
  · rintro ⟨members, rfl, _, ha, _, ht, _, hs, _, hb, rfl⟩
    exact ⟨members, rfl, ha, ht, hs, hb⟩
  · rintro ⟨members, rfl, ha, ht, hs, hb⟩
    exact ⟨members, rfl, _, ha, _, ht, _, hs, _, hb, rfl⟩

theorem NhpSbaContext.deserialize_eq_some {r : NhpSbaContext} :
    NhpSbaContext.deserialize D v = some r ↔
      ∃ members, v = .obj members ∧
        field? members "current_edns" D.f64? = some r.currentEdns ∧
        field? members "current_cei" u32? = some r.currentCei ∧
        field? members "active_alarms" u32? = some r.activeAlarms ∧
        field? members "ongoing_remediations" u32? = some r.ongoingRemediations ∧
        field? members "agent_confidence_score" D.f64? = some r.agentConfidenceScore := by
  simp only [NhpSbaContext.deserialize, bind, Option.bind_eq_some_iff, members?_eq_some, pure,
    Option.some.injEq]
  constructor
  · rintro ⟨members, rfl, _, he, _, hc, _, ha, _, ho, _, hs, rfl⟩
    exact ⟨members, rfl, he, hc, ha, ho, hs⟩
  · rintro ⟨members, rfl, he, hc, ha, ho, hs⟩
    exact ⟨members, rfl, _, he, _, hc, _, ha, _, ho, _, hs, rfl⟩

theorem NhpKnkPayload.deserialize_eq_some {r : NhpKnkPayload} :
    NhpKnkPayload.deserialize D v = some r ↔
      ∃ members, v = .obj members ∧
        field? members "nhp_sba_intent" (NhpSbaIntent.deserialize D) = some r.nhpSbaIntent ∧
        field? members "nhp_sba_context" (NhpSbaContext.deserialize D) = some r.nhpSbaContext ∧
        field? members "nhp_sba_sat_fragment" string? = some r.nhpSbaSatFragment := by
  simp only [NhpKnkPayload.deserialize, bind, Option.bind_eq_some_iff, members?_eq_some, pure,
    Option.some.injEq]
  constructor
  · rintro ⟨members, rfl, _, hi, _, hc, _, hf, rfl⟩
    exact ⟨members, rfl, hi, hc, hf⟩
  · rintro ⟨members, rfl, hi, hc, hf⟩
    exact ⟨members, rfl, _, hi, _, hc, _, hf, rfl⟩

/-- **An impact scope is read alike** when each of its fields is. -/
theorem agree_scope : AgreeWhen float (Knock.ImpactScope.modelValidate M)
    (ImpactScope.deserialize D) ImpactScope.Mirrors (SharedScope D float) := by
  intro v p hp
  obtain ⟨d, hd, hs, he, ht⟩ := Knock.ImpactScope.modelValidate_eq_some.1 hp
  obtain ⟨members, rfl, rfl⟩ := Json.toPy_eq_dict hd
  have hsubscribers := agree_u32.field hs
  have hdelta := (agree_f64 (D := D)).field he
  have hdomain := agree_string.field ht
  constructor
  · rintro ⟨r, hr, hsame⟩
    obtain ⟨_, heq, h₁, h₂, h₃⟩ := ImpactScope.deserialize_eq_some.1 hr
    obtain rfl := Json.obj.inj heq
    exact ⟨members, rfl, hsubscribers.1 ⟨_, h₁, hsame.maxSubscribers⟩,
      hdelta.1 ⟨_, h₂, hsame.maxEdnsDelta⟩, hdomain.1 ⟨_, h₃, hsame.domain⟩⟩
  · rintro ⟨_, heq, h₁, h₂, h₃⟩
    obtain rfl := Json.obj.inj heq
    obtain ⟨subscribers, hs', hsubscribersEq⟩ := hsubscribers.2 h₁
    obtain ⟨delta, he', hdeltaEq⟩ := hdelta.2 h₂
    obtain ⟨domain, ht', hdomainEq⟩ := hdomain.2 h₃
    exact ⟨⟨subscribers, delta, domain⟩,
      ImpactScope.deserialize_eq_some.2 ⟨members, rfl, hs', he', ht'⟩,
      ⟨hsubscribersEq, hdeltaEq, hdomainEq⟩⟩

/-- **An intent is read alike** when each of its fields is. -/
theorem agree_intent : AgreeWhen float (Knock.NhpSbaIntent.modelValidate M)
    (NhpSbaIntent.deserialize D) NhpSbaIntent.Mirrors (SharedIntent D float) := by
  intro v p hp
  obtain ⟨d, hd, ha, ht, hs, hb⟩ := Knock.NhpSbaIntent.modelValidate_eq_some.1 hp
  obtain ⟨members, rfl, rfl⟩ := Json.toPy_eq_dict hd
  have haction := agree_string.field ha
  have htarget := agree_string.field ht
  have hscope := (agree_scope (D := D)).field hs
  have hbounds := agree_bounds.field hb
  constructor
  · rintro ⟨r, hr, hsame⟩
    obtain ⟨_, heq, h₁, h₂, h₃, h₄⟩ := NhpSbaIntent.deserialize_eq_some.1 hr
    obtain rfl := Json.obj.inj heq
    exact ⟨members, rfl, haction.1 ⟨_, h₁, hsame.actionClass⟩,
      htarget.1 ⟨_, h₂, hsame.targetService⟩, hscope.1 ⟨_, h₃, hsame.impactScope⟩,
      hbounds.1 ⟨_, h₄, hsame.temporalBounds⟩⟩
  · rintro ⟨_, heq, h₁, h₂, h₃, h₄⟩
    obtain rfl := Json.obj.inj heq
    obtain ⟨action, ha', hactionEq⟩ := haction.2 h₁
    obtain ⟨target, ht', htargetEq⟩ := htarget.2 h₂
    obtain ⟨scope, hs', hscopeEq⟩ := hscope.2 h₃
    obtain ⟨bounds, hb', hboundsEq⟩ := hbounds.2 h₄
    exact ⟨⟨action, target, scope, bounds⟩,
      NhpSbaIntent.deserialize_eq_some.2 ⟨members, rfl, ha', ht', hs', hb'⟩,
      ⟨hactionEq, htargetEq, hscopeEq, hboundsEq⟩⟩

/-- **A context is read alike** when each of its fields is. -/
theorem agree_context : AgreeWhen float (Knock.NhpSbaContext.modelValidate M)
    (NhpSbaContext.deserialize D) NhpSbaContext.Mirrors (SharedContext D float) := by
  intro v p hp
  obtain ⟨d, hd, he, hc, ha, ho, hs⟩ := Knock.NhpSbaContext.modelValidate_eq_some.1 hp
  obtain ⟨members, rfl, rfl⟩ := Json.toPy_eq_dict hd
  have hedns := (agree_f64 (D := D)).field he
  have hcei := agree_u32.field hc
  have halarms := agree_u32.field ha
  have hongoing := agree_u32.field ho
  have hscore := (agree_f64 (D := D)).field hs
  constructor
  · rintro ⟨r, hr, hsame⟩
    obtain ⟨_, heq, h₁, h₂, h₃, h₄, h₅⟩ := NhpSbaContext.deserialize_eq_some.1 hr
    obtain rfl := Json.obj.inj heq
    exact ⟨members, rfl, hedns.1 ⟨_, h₁, hsame.currentEdns⟩, hcei.1 ⟨_, h₂, hsame.currentCei⟩,
      halarms.1 ⟨_, h₃, hsame.activeAlarms⟩, hongoing.1 ⟨_, h₄, hsame.ongoingRemediations⟩,
      hscore.1 ⟨_, h₅, hsame.agentConfidenceScore⟩⟩
  · rintro ⟨_, heq, h₁, h₂, h₃, h₄, h₅⟩
    obtain rfl := Json.obj.inj heq
    obtain ⟨edns, he', hednsEq⟩ := hedns.2 h₁
    obtain ⟨cei, hc', hceiEq⟩ := hcei.2 h₂
    obtain ⟨alarms, ha', halarmsEq⟩ := halarms.2 h₃
    obtain ⟨ongoing, ho', hongoingEq⟩ := hongoing.2 h₄
    obtain ⟨score, hs', hscoreEq⟩ := hscore.2 h₅
    exact ⟨⟨edns, cei, alarms, ongoing, score⟩,
      NhpSbaContext.deserialize_eq_some.2 ⟨members, rfl, he', hc', ha', ho', hs'⟩,
      ⟨hednsEq, hceiEq, halarmsEq, hongoingEq, hscoreEq⟩⟩

/-- **A payload is read alike** when its intent, its context and its
fragment are. -/
theorem agree_payload : AgreeWhen float (Knock.NhpKnkPayload.modelValidate M)
    (NhpKnkPayload.deserialize D) NhpKnkPayload.Mirrors (SharedKnock D float) := by
  intro v p hp
  obtain ⟨d, hd, -, -, -, -, -, -, hi, hc, hf⟩ := Knock.NhpKnkPayload.modelValidate_eq_some.1 hp
  obtain ⟨members, rfl, rfl⟩ := Json.toPy_eq_dict hd
  have hintent := (agree_intent (D := D)).field hi
  have hcontext := (agree_context (D := D)).field hc
  have hfragment := agree_string.field hf
  constructor
  · rintro ⟨r, hr, hsame⟩
    obtain ⟨_, heq, h₁, h₂, h₃⟩ := NhpKnkPayload.deserialize_eq_some.1 hr
    obtain rfl := Json.obj.inj heq
    exact ⟨members, rfl, hintent.1 ⟨_, h₁, hsame.nhpSbaIntent⟩,
      hcontext.1 ⟨_, h₂, hsame.nhpSbaContext⟩, hfragment.1 ⟨_, h₃, hsame.nhpSbaSatFragment⟩⟩
  · rintro ⟨_, heq, h₁, h₂, h₃⟩
    obtain rfl := Json.obj.inj heq
    obtain ⟨intent, hi', hintentEq⟩ := hintent.2 h₁
    obtain ⟨context, hc', hcontextEq⟩ := hcontext.2 h₂
    obtain ⟨fragment, hf', hfragmentEq⟩ := hfragment.2 h₃
    exact ⟨⟨intent, context, fragment⟩,
      NhpKnkPayload.deserialize_eq_some.2 ⟨members, rfl, hi', hc', hf'⟩,
      ⟨hintentEq, hcontextEq, hfragmentEq⟩⟩

end Models

/-! ## Knocks -/

/-- **The enforcement point takes a text for what the server took it for**:
it parses it, accepts its schema, and has the same fields. -/
def ReadAlike (D : Serde) (raw : List UInt8) (p : Knock.NhpKnkPayload) : Prop :=
  ∃ r, DefaultKnkParser.parse D raw = .ok r ∧ DefaultKnkParser.validateSchema D r = .ok () ∧
    NhpKnkPayload.Mirrors p r

section Knocks

variable {K J : Type} {R : Knock.Runtime K J} {M : Knock.Schema} {D : Serde}
  {float : String → PyFloat} {raw : List UInt8} {doc : Json} {p : Knock.NhpKnkPayload}

/-- What mirrors a payload of the server is in the ranges that the
enforcement point checks once more. -/
theorem validateSchema_of_mirrors {r : NhpKnkPayload} (h : NhpKnkPayload.Mirrors p r) :
    DefaultKnkParser.validateSchema D r = .ok () := by
  have haction : r.nhpSbaIntent.actionClass ∈ DefaultKnkParser.validActions := by
    rw [← h.nhpSbaIntent.actionClass]
    exact p.nhpSbaIntent.actionClass_mem
  -- the models have checked the ranges
  obtain ⟨hednsLow, hednsHigh⟩ := p.nhpSbaContext.currentEdns_mem
  obtain ⟨hscoreLow, hscoreHigh⟩ := p.nhpSbaContext.agentConfidenceScore_mem
  rw [h.nhpSbaContext.currentEdns] at hednsLow hednsHigh
  rw [h.nhpSbaContext.agentConfidenceScore] at hscoreLow hscoreHigh
  have hedns : ¬(r.nhpSbaContext.currentEdns < 0 ∨ r.nhpSbaContext.currentEdns > 1) := by
    rw [not_or]
    exact ⟨not_lt.2 hednsLow, not_lt.2 hednsHigh⟩
  have hscore : ¬(r.nhpSbaContext.agentConfidenceScore < 0 ∨
      r.nhpSbaContext.agentConfidenceScore > 1) := by
    rw [not_or]
    exact ⟨not_lt.2 hscoreLow, not_lt.2 hscoreHigh⟩
  rw [DefaultKnkParser.validateSchema]
  simp only [not_not.2 haction, hedns, hscore, if_false]

theorem parse_eq_ok {r : NhpKnkPayload} (hpoint : D.document raw = .ok doc) :
    DefaultKnkParser.parse D raw = .ok r ↔ NhpKnkPayload.deserialize D doc = some r := by
  rw [DefaultKnkParser.parse, hpoint]
  cases h : NhpKnkPayload.deserialize D doc <;> simp [h]

/-- **Two readers of one language**: where both take a text for a document,
it is the same. A text may be a document to one of them only. -/
def OneDocument (R : Knock.Runtime K J) (D : Serde) (float : String → PyFloat)
    (raw : List UInt8) : Prop :=
  ∀ data doc, R.jsonLoads (.inl raw) = .ok data → D.document raw = .ok doc →
    data = doc.toPy float

/-- **Exactly the shared knocks are read alike.** Of a text that the server
parses, the enforcement point makes the same payload if and only if it
takes it for a document too, in which each field of its structs stands
once, the four counters are written as unsigned integers of 32 bits, every
time bound is an unsigned integer of 64, and the three scores are literals
that both readers take for the same number. -/
theorem readAlike_iff (hone : OneDocument R D float raw)
    (hparse : Knock.NhpKnkParser.parse R M raw = .ok p) :
    ReadAlike D raw p ↔ ∃ doc, D.document raw = .ok doc ∧ SharedKnock D float doc := by
  obtain ⟨data, hloads, hmodel⟩ := Knock.NhpKnkParser.parse_eq_ok.1 hparse
  -- of one document, the payloads are alike exactly where it is shared
  have hagree : ∀ doc, D.document raw = .ok doc →
      ((∃ r, NhpKnkPayload.deserialize D doc = some r ∧ NhpKnkPayload.Mirrors p r) ↔
        SharedKnock D float doc) := by
    intro doc hpoint
    obtain rfl := hone data doc hloads hpoint
    exact agree_payload doc p hmodel
  constructor
  · rintro ⟨r, hr, -, hsame⟩
    cases hpoint : D.document raw with
    | error e =>
      rw [DefaultKnkParser.parse, hpoint] at hr
      cases hr
    | ok doc => exact ⟨doc, rfl, (hagree doc hpoint).1 ⟨r, (parse_eq_ok hpoint).1 hr, hsame⟩⟩
  · rintro ⟨doc, hpoint, hshared⟩
    obtain ⟨r, hr, hsame⟩ := (hagree doc hpoint).2 hshared
    exact ⟨r, (parse_eq_ok hpoint).2 hr, validateSchema_of_mirrors hsame, hsame⟩

end Knocks

/-! ## Two knocks -/

namespace Sample

open Knock.Agent Knock.Sample

/-! ### The one of the enforcement point's tests -/

/-- The number literals of the test's knock, and the doubles they are. -/
def testLiterals : List (String × ℚ) :=
  [("0.05", Double.round (5 / 100)), ("0.15", Double.round (15 / 100)),
    ("0.98", Double.round (98 / 100))]

/-- `float`, on those literals. -/
def testFloat (literal : String) : PyFloat :=
  match testLiterals.lookup literal with
  | some q => .finite q
  | none => .nan

def testScope : Json :=
  .obj [("max_subscribers", .int false 1000), ("max_edns_delta", .decimal "0.05"),
    ("domain", .str "core")]

def testIntent : Json :=
  .obj [("action_class", .str "monitor"), ("target_service", .str "amf.5gc.svc"),
    ("impact_scope", testScope),
    ("temporal_bounds", .obj [("session_duration_ms", .int false 300000)])]

def testContext : Json :=
  .obj [("current_edns", .decimal "0.15"), ("current_cei", .int false 85),
    ("active_alarms", .int false 0), ("ongoing_remediations", .int false 0),
    ("agent_confidence_score", .decimal "0.98")]

/-- The knock of `make_payload`, in the envelope that the server asks for. -/
def testDocument : Json :=
  .obj [("version", .str "1.0"), ("node_id", .str "agent-001"),
    ("timestamp", .int false 1700000000), ("nonce", .str "c2FtcGxlIG5vbmNlIDAwMQ=="),
    ("public_key", .str (String.ofList (Base64.b64encode (key 7)))), ("jws", .str "e30.e30.c2ln"),
    ("nhp_sba_intent", testIntent), ("nhp_sba_context", testContext),
    ("nhp_sba_sat_fragment", .str "base64encodedfragment")]

/-- A `float` of the test, as it is written there. -/
def testLiteral (q : ℚ) : String :=
  ((testLiterals.find? fun entry => entry.2 = q).map Prod.fst).getD (toString q)

def testText : String := write ", " ": " testLiteral 4 (testDocument.toPy testFloat)

/-- Packages and a `serde_json` that know that text. -/
def testPackages : Knock.Runtime Bytes String := runtime [(testText, testDocument.toPy testFloat)]

def testSerde : Serde where
  document raw := if raw = Knock.encodeUtf8 testText then .ok testDocument else
    .error "expected value"
  parseF64 literal := testLiterals.lookup literal
  mismatch _ := "invalid type"
  display q := toString q

theorem test_server :
    testPackages.jsonLoads (.inl (Knock.encodeUtf8 testText)) =
      .ok (testDocument.toPy testFloat) := by
  have hlookup : [(testText, testDocument.toPy testFloat)].lookup testText =
      some (testDocument.toPy testFloat) := List.lookup_cons_self
  rw [testPackages, runtime_jsonLoads]
  exact loads_inl hlookup

theorem test_point : testSerde.document (Knock.encodeUtf8 testText) = .ok testDocument := by
  simp only [testSerde, if_true]

theorem test_modelled :
    (Knock.NhpKnkPayload.modelValidate agentSchema
      (testDocument.toPy testFloat)).isSome = true := by
  decide +kernel

/-- The server parses it, and validates its schema. -/
theorem test_parsed : ∃ payload,
    Knock.NhpKnkParser.parse testPackages agentSchema (Knock.encodeUtf8 testText) = .ok payload ∧
    Knock.NhpKnkParser.validateSchema testPackages payload = .ok () := by
  obtain ⟨payload, hmodel⟩ := Option.isSome_iff_exists.1 test_modelled
  refine ⟨payload, Knock.NhpKnkParser.parse_eq_ok.2 ⟨_, test_server, hmodel⟩, ?_⟩
  obtain ⟨d, hd, -, -, -, -, hkey, -⟩ := Knock.NhpKnkPayload.modelValidate_eq_some.1 hmodel
  obtain rfl := PyValue.dict.inj hd
  obtain hkey := Option.some.inj hkey
  refine Knock.NhpKnkParser.validateSchema_eq_ok.2 ⟨key 7, ?_, length_key 7⟩
  rw [← hkey, String.toList_ofList, Base64.b64decode_b64encode]

theorem test_scope : SharedScope testSerde testFloat testScope := by
  refine ⟨_, rfl, ⟨_, rfl, 1000, ?_, rfl⟩, ⟨_, rfl, _, rfl, rfl⟩, _, rfl, trivial⟩
  decide

theorem test_intent : SharedIntent testSerde testFloat testIntent := by
  have hbounds : U64Bounds (.obj [("session_duration_ms", .int false 300000)]) := by
    refine ⟨_, rfl, fun m hm => ?_⟩
    obtain rfl := List.mem_singleton.1 hm
    exact ⟨300000, by decide, rfl⟩
  exact ⟨_, rfl, ⟨_, rfl, trivial⟩, ⟨_, rfl, trivial⟩, ⟨_, rfl, test_scope⟩, _, rfl, hbounds⟩

theorem test_context : SharedContext testSerde testFloat testContext := by
  refine ⟨_, rfl, ⟨_, rfl, _, rfl, rfl⟩, ⟨_, rfl, 85, ?_, rfl⟩, ⟨_, rfl, 0, ?_, rfl⟩,
    ⟨_, rfl, 0, ?_, rfl⟩, _, rfl, _, rfl, rfl⟩ <;> decide

/-- Every field stands once, and says the same to both readers. -/
theorem test_shared : SharedKnock testSerde testFloat testDocument :=
  ⟨_, rfl, ⟨_, rfl, test_intent⟩, ⟨_, rfl, test_context⟩, _, rfl, trivial⟩

theorem test_oneDocument :
    OneDocument testPackages testSerde testFloat (Knock.encodeUtf8 testText) := by
  intro data doc hserver hpoint
  obtain rfl := Except.ok.inj (test_server.symm.trans hserver)
  obtain rfl := Except.ok.inj (test_point.symm.trans hpoint)
  rfl

/-- **The knock of the test is read alike.** -/
theorem readAlike_iff_test : ∃ payload,
    Knock.NhpKnkParser.parse testPackages agentSchema (Knock.encodeUtf8 testText) = .ok payload ∧
    Knock.NhpKnkParser.validateSchema testPackages payload = .ok () ∧
    ReadAlike testSerde (Knock.encodeUtf8 testText) payload := by
  obtain ⟨payload, hparse, hschema⟩ := test_parsed
  exact ⟨payload, hparse, hschema,
    (readAlike_iff test_oneDocument hparse).2 ⟨testDocument, test_point, test_shared⟩⟩

/-! ### The agent's -/

/-- The number literals of the agent's knock. -/
def literals : List (String × ℚ) := [("0.05", maxEdnsDelta), ("0.5", 1 / 2), ("1.0", 1)]

/-- `float`, on those literals. -/
def agentFloat (literal : String) : PyFloat :=
  match literals.lookup literal with
  | some q => .finite q
  | none => .nan

/-- The document that the agent sends. Its time bounds hold a window. -/
def agentDocument : Json :=
  .obj [("version", .str "1.0"), ("node_id", .str "agent-001"), ("timestamp", .int false 1700000000),
    ("nonce", .str (nonceVal agentUuid)),
    ("public_key", .str (String.ofList (Base64.b64encode ((Knock.Sample.key 7).take 32)))),
    ("jws", .str agentToken),
    ("nhp_sba_intent", .obj
      [("action_class", .str "monitor"), ("target_service", .str "amf.5gc.svc"),
        ("impact_scope", .obj [("max_subscribers", .int false 1000),
          ("max_edns_delta", .decimal "0.05"), ("domain", .str "core")]),
        ("temporal_bounds", .obj [("session_duration_ms", .int false 300000),
          ("execution_window", .obj [("start_time", .int false 1700000000),
            ("end_time", .int false 1700300000)])])]),
    ("nhp_sba_context", .obj
      [("current_edns", .decimal "0.5"), ("current_cei", .int false 85),
        ("active_alarms", .int false 0), ("ongoing_remediations", .int false 0),
        ("agent_confidence_score", .decimal "1.0")]),
    ("nhp_sba_sat_fragment", .str "sat-fragment-001")]

/-- Its text. -/
def agentRaw : Bytes := Knock.encodeUtf8 (agentDumps 5 (.dict agentKnk))

/-- A `serde_json` that knows that text. -/
def agentSerde : Serde where
  document raw := if raw = agentRaw then .ok agentDocument else .error "expected value"
  parseF64 literal := literals.lookup literal
  mismatch _ := "invalid type: map, expected u64"
  display := reprFloat

theorem truncate_clock : truncate 1700000000 = 1700000000 := by decide +kernel

theorem agentDocument_toPy : agentDocument.toPy agentFloat = .dict agentKnk := by
  simp only [agentKnk, knk, Knock.Agent.intent, temporalBounds, truncate_clock]
  rfl

/-- The server reads it. -/
theorem agent_server :
    agentPackages.jsonLoads (.inl agentRaw) = .ok (agentDocument.toPy agentFloat) := by
  rw [agentDocument_toPy]
  exact (agentValues_readBack (by simp [agentValues])).2

/-- So does the enforcement point's reader. -/
theorem agent_point : agentSerde.document agentRaw = .ok agentDocument := by
  simp only [agentSerde, if_true]

/-- The server parses it, and validates its schema. -/
theorem agent_parsed : ∃ payload,
    Knock.NhpKnkParser.parse agentPackages agentSchema agentRaw = .ok payload ∧
    Knock.NhpKnkParser.validateSchema agentPackages payload = .ok () := by
  have hsmall : (1700000000 : ℤ) < Knock.NhpKnkParser.floatOverflow := by decide +kernel
  have hend : (1700000000 : ℚ) < Knock.NhpKnkParser.floatOverflow := by exact_mod_cast hsmall
  obtain ⟨payload, hfull⟩ :=
    agent_honest.parsed (M := agentSchema) (by norm_num) hend (generateKnkPayload_agent.2 rfl)
  obtain ⟨hparse, hschema, -, -⟩ := Knock.NhpKnkParser.fullValidate_eq_ok.1 hfull
  exact ⟨payload, hparse, hschema⟩

/-- **The agent's own knock is dropped.** Both readers take it for one
document. The server parses it and validates its schema; the enforcement
point finds a map where it takes a `u64`. -/
theorem agent_dropped :
    (agentPackages.jsonLoads (.inl agentRaw) = .ok (agentDocument.toPy agentFloat) ∧
      agentSerde.document agentRaw = .ok agentDocument) ∧
    ∃ payload,
      Knock.NhpKnkParser.parse agentPackages agentSchema agentRaw = .ok payload ∧
      Knock.NhpKnkParser.validateSchema agentPackages payload = .ok () ∧
      (∃ message, DefaultKnkParser.parse agentSerde agentRaw = .error (.invalidJson message)) ∧
      ¬ReadAlike agentSerde agentRaw payload := by
  obtain ⟨payload, hparse, hschema⟩ := agent_parsed
  have hnone : NhpKnkPayload.deserialize agentSerde agentDocument = none := rfl
  have herror : DefaultKnkParser.parse agentSerde agentRaw =
      .error (.invalidJson (agentSerde.mismatch agentDocument)) := by
    rw [DefaultKnkParser.parse, agent_point]
    simp only [hnone]
  refine ⟨⟨agent_server, agent_point⟩, payload, hparse, hschema, ⟨_, herror⟩, ?_⟩
  rintro ⟨r, hr, -, -⟩
  rw [herror] at hr
  cases hr

end Sample

end Wire

end NhpSba
