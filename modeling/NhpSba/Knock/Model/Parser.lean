import NhpSba.Knock.Model.Payload
/-!
# Knock — the parser

`NhpKnkParser.parse` and `full_validate`. The models are read field by
field, the way Pydantic reads them: an undeclared field is ignored, a
missing one is an error, a value of another type is one where Pydantic has
no conversion for it, and each field has its declared constraint.
-/

namespace NhpSba

namespace Knock

/-- What the parser takes from its packages, beside the JSON reader. -/
structure Schema where
  /-- Whether the `ValueError` of `json.loads` on these bytes is a
  `JSONDecodeError` or a `UnicodeDecodeError`. There is a plain one too,
  for an integer of too many digits. -/
  isDecodeError : Bytes → Bool
  /-- Pydantic's `int` of a value that is not an `int`. -/
  laxInt : PyValue → Option ℤ
  /-- Pydantic's `float` of a value that is no number. -/
  laxFloat : PyValue → Option PyFloat
  /-- `str` of the `ValidationError` for a value. -/
  validationError : PyValue → String

/-- The rational a `float` is. An infinity or a NaN is in no range that a
field declares. -/
def finite? : PyFloat → Option ℚ
  | .finite q => some q
  | _ => none

namespace Schema

variable (M : Schema)

/-- A value under a field of type `int`. -/
def int? : PyValue → Option ℤ
  | .int z => some z
  | v => M.laxInt v

/-- A value under a field of type `float` with a range. -/
def float? : PyValue → Option ℚ
  | .float x => finite? x
  -- one too large for a `float` is in no range either
  | .int z => some z
  | v => (M.laxFloat v).bind finite?

end Schema

/-- The value of a field of a `dict`, converted to the field's type. -/
def field {α : Type} (d : Dict) (name : String) (convert : PyValue → Option α) : Option α :=
  (d.lookup name).bind convert

/-- Hold a converted value to the constraint of its field. -/
def constrain {α : Type} (p : α → Prop) [DecidablePred p] (x : Option α) : Option {a // p a} :=
  x.bind fun a => if h : p a then some ⟨a, h⟩ else none

/-- A text field of bounded length. -/
def LengthBetween (least greatest : ℕ) (s : String) : Prop := least ≤ s.length ∧ s.length ≤ greatest

instance (least greatest : ℕ) : DecidablePred (LengthBetween least greatest) :=
  fun _ => instDecidableAnd

/-- A text field of any length but zero. -/
def NonEmpty (s : String) : Prop := 1 ≤ s.length

instance : DecidablePred NonEmpty := fun s => Nat.decLe 1 s.length

/-- `ImpactScope.model_validate`. -/
def ImpactScope.modelValidate (M : Schema) (v : PyValue) : Option ImpactScope := do
  let d ← v.dict?
  let maxSubscribers ← constrain (0 ≤ ·) (field d "max_subscribers" M.int?)
  let maxEdnsDelta ← constrain UnitRange (field d "max_edns_delta" M.float?)
  let domain ← constrain NonEmpty (field d "domain" PyValue.str?)
  return {
    maxSubscribers := maxSubscribers.1
    maxEdnsDelta := maxEdnsDelta.1
    domain := domain.1
    maxSubscribers_nonneg := maxSubscribers.2
    maxEdnsDelta_mem := maxEdnsDelta.2
    domain_length := domain.2 }

/-- `NhpSbaIntent.model_validate`. The time bounds are any `dict`. -/
def NhpSbaIntent.modelValidate (M : Schema) (v : PyValue) : Option NhpSbaIntent := do
  let d ← v.dict?
  let actionClass ← constrain (· ∈ actionClasses) (field d "action_class" PyValue.str?)
  let targetService ← constrain (LengthBetween 1 256) (field d "target_service" PyValue.str?)
  let impactScope ← field d "impact_scope" (ImpactScope.modelValidate M)
  let temporalBounds ← field d "temporal_bounds" PyValue.dict?
  return {
    actionClass := actionClass.1
    targetService := targetService.1
    impactScope := impactScope
    temporalBounds := temporalBounds
    actionClass_mem := actionClass.2
    targetService_length := targetService.2 }

/-- `NhpSbaContext.model_validate`. -/
def NhpSbaContext.modelValidate (M : Schema) (v : PyValue) : Option NhpSbaContext := do
  let d ← v.dict?
  let currentEdns ← constrain UnitRange (field d "current_edns" M.float?)
  let currentCei ← constrain (fun z => 0 ≤ z ∧ z ≤ 100) (field d "current_cei" M.int?)
  let activeAlarms ← constrain (0 ≤ ·) (field d "active_alarms" M.int?)
  let ongoingRemediations ← constrain (0 ≤ ·) (field d "ongoing_remediations" M.int?)
  let agentConfidenceScore ← constrain UnitRange (field d "agent_confidence_score" M.float?)
  return {
    currentEdns := currentEdns.1
    currentCei := currentCei.1
    activeAlarms := activeAlarms.1
    ongoingRemediations := ongoingRemediations.1
    agentConfidenceScore := agentConfidenceScore.1
    currentEdns_mem := currentEdns.2
    currentCei_mem := currentCei.2
    activeAlarms_nonneg := activeAlarms.2
    ongoingRemediations_nonneg := ongoingRemediations.2
    agentConfidenceScore_mem := agentConfidenceScore.2 }

/-- `NhpKnkPayload.model_validate`. -/
def NhpKnkPayload.modelValidate (M : Schema) (v : PyValue) : Option NhpKnkPayload := do
  let d ← v.dict?
  let version ← constrain (· = "1.0") (field d "version" PyValue.str?)
  let nodeId ← constrain (LengthBetween 1 256) (field d "node_id" PyValue.str?)
  let timestamp ← constrain (0 < ·) (field d "timestamp" M.int?)
  let nonce ← constrain (LengthBetween 16 64) (field d "nonce" PyValue.str?)
  let publicKey ← constrain NonEmpty (field d "public_key" PyValue.str?)
  let jws ← constrain NonEmpty (field d "jws" PyValue.str?)
  let nhpSbaIntent ← field d "nhp_sba_intent" (NhpSbaIntent.modelValidate M)
  let nhpSbaContext ← field d "nhp_sba_context" (NhpSbaContext.modelValidate M)
  let nhpSbaSatFragment ← constrain NonEmpty (field d "nhp_sba_sat_fragment" PyValue.str?)
  return {
    version := version.1
    nodeId := nodeId.1
    timestamp := timestamp.1
    nonce := nonce.1
    publicKey := publicKey.1
    jws := jws.1
    nhpSbaIntent := nhpSbaIntent
    nhpSbaContext := nhpSbaContext
    nhpSbaSatFragment := nhpSbaSatFragment.1
    version_eq := version.2
    nodeId_length := nodeId.2
    timestamp_pos := timestamp.2
    nonce_length := nonce.2
    publicKey_length := publicKey.2
    jws_length := jws.2
    nhpSbaSatFragment_length := nhpSbaSatFragment.2 }

namespace NhpKnkParser

variable {K J : Type} (R : Runtime K J) (M : Schema)

/-- `parse`. The first handler names two kinds of `ValueError`, and lets
any other escape. -/
def parse (rawPayload : Bytes) : Except PyException NhpKnkPayload :=
  match R.jsonLoads (.inl rawPayload) with
  | .error exc =>
    if M.isDecodeError rawPayload then
      .error (.knkParseError s!"Invalid JSON payload: {exc}" "payload")
    else .error (.valueError exc)
  | .ok data =>
    match NhpKnkPayload.modelValidate M data with
    | some payload => .ok payload
    | none =>
      .error (.knkParseError s!"Schema validation failed: {M.validationError data}" "schema")

/-- `full_validate` at a clock reading. -/
def fullValidate (rawPayload : Bytes) (now : ℚ) : Except PyException NhpKnkPayload := do
  let payload ← parse R M rawPayload
  validateSchema R payload
  validateNonce payload
  validateTimestamp R payload now
  return payload

end NhpKnkParser

end Knock

end NhpSba
