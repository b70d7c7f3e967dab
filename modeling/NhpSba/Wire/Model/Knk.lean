import NhpSba.Rust.Serde
/-!
# The NHP-KNK payload at the enforcement point

The structs that the access controller deserialises a knock into, its
parser, and what its schema validation compares.
-/

namespace NhpSba

namespace Wire

open Rust

structure ImpactScope where
  maxSubscribers : UInt32
  maxEdnsDelta : F64
  domain : String

structure NhpSbaIntent where
  actionClass : String
  targetService : String
  impactScope : ImpactScope
  temporalBounds : AList fun _ : String => UInt64

structure NhpSbaContext where
  currentEdns : F64
  currentCei : UInt32
  activeAlarms : UInt32
  ongoingRemediations : UInt32
  agentConfidenceScore : F64

/-- NHP-KNK payload - the canonical shared JSON structure. -/
structure NhpKnkPayload where
  nhpSbaIntent : NhpSbaIntent
  nhpSbaContext : NhpSbaContext
  nhpSbaSatFragment : String

/-- Error type for KNK parsing and validation. -/
inductive KnkParseError
  | invalidJson (message : String)
  | schemaValidation (message : String)
  | invalidAction (action : String)

open Serde

/-- The derived `Deserialize` of `ImpactScope`. -/
def ImpactScope.deserialize (D : Serde) (v : Json) : Option ImpactScope := do
  let members ← members? v
  let maxSubscribers ← field? members "max_subscribers" u32?
  let maxEdnsDelta ← field? members "max_edns_delta" D.f64?
  let domain ← field? members "domain" string?
  return { maxSubscribers, maxEdnsDelta, domain }

/-- The derived `Deserialize` of `NhpSbaIntent`. -/
def NhpSbaIntent.deserialize (D : Serde) (v : Json) : Option NhpSbaIntent := do
  let members ← members? v
  let actionClass ← field? members "action_class" string?
  let targetService ← field? members "target_service" string?
  let impactScope ← field? members "impact_scope" (ImpactScope.deserialize D)
  let temporalBounds ← field? members "temporal_bounds" (hashMap? u64?)
  return { actionClass, targetService, impactScope, temporalBounds }

/-- The derived `Deserialize` of `NhpSbaContext`. -/
def NhpSbaContext.deserialize (D : Serde) (v : Json) : Option NhpSbaContext := do
  let members ← members? v
  let currentEdns ← field? members "current_edns" D.f64?
  let currentCei ← field? members "current_cei" u32?
  let activeAlarms ← field? members "active_alarms" u32?
  let ongoingRemediations ← field? members "ongoing_remediations" u32?
  let agentConfidenceScore ← field? members "agent_confidence_score" D.f64?
  return { currentEdns, currentCei, activeAlarms, ongoingRemediations, agentConfidenceScore }

/-- The derived `Deserialize` of `NhpKnkPayload`. -/
def NhpKnkPayload.deserialize (D : Serde) (v : Json) : Option NhpKnkPayload := do
  let members ← members? v
  let nhpSbaIntent ← field? members "nhp_sba_intent" (NhpSbaIntent.deserialize D)
  let nhpSbaContext ← field? members "nhp_sba_context" (NhpSbaContext.deserialize D)
  let nhpSbaSatFragment ← field? members "nhp_sba_sat_fragment" string?
  return { nhpSbaIntent, nhpSbaContext, nhpSbaSatFragment }

namespace DefaultKnkParser

variable (D : Serde)

/-- `parse`: `serde_json::from_slice`, with its errors under one name. -/
def parse (payload : List UInt8) : Except KnkParseError NhpKnkPayload :=
  match D.document payload with
  | .error e => .error (.invalidJson e)
  | .ok v =>
    match NhpKnkPayload.deserialize D v with
    | some knk => .ok knk
    | none => .error (.invalidJson (D.mismatch v))

def validActions : List String := ["monitor", "remediate", "provision", "optimize"]

/-- `validate_schema`. -/
def validateSchema (payload : NhpKnkPayload) : Except KnkParseError Unit :=
  let edns := payload.nhpSbaContext.currentEdns
  let confidence := payload.nhpSbaContext.agentConfidenceScore
  if payload.nhpSbaIntent.actionClass ∉ validActions then
    .error (.invalidAction payload.nhpSbaIntent.actionClass)
  else if edns < 0 ∨ edns > 1 then
    .error (.schemaValidation s!"EDNS score out of range: {D.display edns}")
  else if confidence < 0 ∨ confidence > 1 then
    .error (.schemaValidation "Confidence score out of range")
  else .ok ()

end DefaultKnkParser

end Wire

end NhpSba
