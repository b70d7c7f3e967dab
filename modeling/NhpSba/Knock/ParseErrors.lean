import NhpSba.Knock.Agent
/-!
# Knock — how the parser fails

`full_validate` returns a payload in order or raises a `KnkParseError`,
but for two gaps. The handler around the JSON reader names two kinds of
`ValueError`, and `validate_timestamp` converts the timestamp to a `float`
before it compares it. `answers_iff` says that there are no others.
-/

namespace NhpSba

namespace Knock

namespace NhpKnkParser

/-- The public key is 32 bytes in Base64. -/
def KeyInOrder (payload : NhpKnkPayload) : Prop :=
  ∃ bytes, Base64.b64decode payload.publicKey.toList = .ok bytes ∧ bytes.length = 32

/-- The nonce is sixteen bytes or more in Base64, not all of them zero. -/
def NonceInOrder (payload : NhpKnkPayload) : Prop :=
  ∃ bytes, Base64.b64decode payload.nonce.toList = .ok bytes ∧ 16 ≤ bytes.length ∧
    ∃ b ∈ bytes, b ≠ 0

/-- A payload in order, at a clock reading. -/
structure InOrder (payload : NhpKnkPayload) (now : ℚ) : Prop where
  version : payload.version = "1.0"
  action : payload.nhpSbaIntent.actionClass ∈ actionClasses
  edns : UnitRange payload.nhpSbaContext.currentEdns
  confidence : UnitRange payload.nhpSbaContext.agentConfidenceScore
  key : KeyInOrder payload
  nonce : NonceInOrder payload
  timestamp : |now - payload.timestamp| ≤ 300

/-- A `KnkParseError`. -/
def ParseError {α : Type} (result : Except PyException α) : Prop :=
  ∃ message field, result = .error (.knkParseError message field)

variable {K J : Type} (R : Runtime K J) (M : Schema)

/-- A payload in order, or a `KnkParseError`. -/
def Answers (rawPayload : Bytes) (now : ℚ) : Prop :=
  (∃ payload, fullValidate R M rawPayload now = .ok payload ∧ InOrder payload now) ∨
    ParseError (fullValidate R M rawPayload now)

/-- Neither gap is met: where the JSON reader fails it is by one of the two
kinds, and a payload that is read, with its key and its nonce in order, has
a timestamp that a `float` can hold. -/
structure NoGap (rawPayload : Bytes) : Prop where
  json : ∀ exc, R.jsonLoads (.inl rawPayload) = .error exc → M.isDecodeError rawPayload = true
  timestamp : ∀ data payload, R.jsonLoads (.inl rawPayload) = .ok data →
    NhpKnkPayload.modelValidate M data = some payload → KeyInOrder payload →
      NonceInOrder payload → payload.timestamp < floatOverflow

variable {R M} {rawPayload : Bytes} {payload : NhpKnkPayload} {now : ℚ}

/-! ## The steps -/

theorem parse_parseError (h : ∀ exc, R.jsonLoads (.inl rawPayload) = .error exc →
    M.isDecodeError rawPayload = true) :
    (∃ payload, parse R M rawPayload = .ok payload) ∨ ParseError (parse R M rawPayload) := by
  cases hloads : R.jsonLoads (.inl rawPayload) with
  | error exc =>
    rw [parse, hloads]
    dsimp only
    rw [if_pos (h exc hloads)]
    exact Or.inr ⟨_, _, rfl⟩
  | ok data =>
    cases hmodel : NhpKnkPayload.modelValidate M data with
    | none =>
      rw [parse, hloads]
      simp only [hmodel]
      exact Or.inr ⟨_, _, rfl⟩
    | some payload => exact Or.inl ⟨payload, parse_eq_ok.2 ⟨data, hloads, hmodel⟩⟩

/-- What the models have checked is checked again, and passes. -/
theorem validateSchema_parseError (R : Runtime K J) (payload : NhpKnkPayload) :
    validateSchema R payload = .ok () ∨ ParseError (validateSchema R payload) := by
  simp only [validateSchema]
  rw [if_neg (not_not.2 payload.version_eq),
    if_neg (not_not.2 payload.nhpSbaIntent.actionClass_mem),
    if_neg (not_not.2 payload.nhpSbaContext.currentEdns_mem),
    if_neg (not_not.2 payload.nhpSbaContext.agentConfidenceScore_mem)]
  split
  · exact Or.inr ⟨_, _, rfl⟩
  · split
    · exact Or.inr ⟨_, _, rfl⟩
    · exact Or.inl rfl

theorem validateNonce_parseError (payload : NhpKnkPayload) :
    validateNonce payload = .ok () ∨ ParseError (validateNonce payload) := by
  rw [validateNonce]
  split
  · exact Or.inr ⟨_, _, rfl⟩
  · split
    · exact Or.inr ⟨_, _, rfl⟩
    · split
      · exact Or.inr ⟨_, _, rfl⟩
      · exact Or.inl rfl

theorem validateTimestamp_parseError (R : Runtime K J) (now : ℚ)
    (h : payload.timestamp < floatOverflow) :
    validateTimestamp R payload now = .ok () ∨
      ParseError (validateTimestamp R payload now) := by
  rw [validateTimestamp, if_neg (Int.not_le.2 h)]
  dsimp only
  split
  · exact Or.inr ⟨_, _, rfl⟩
  · split
    · exact Or.inr ⟨_, _, rfl⟩
    · exact Or.inl rfl

/-! ## The whole -/

/-- **What an accepted payload is.** -/
theorem inOrder_of_ok (h : fullValidate R M rawPayload now = .ok payload) :
    InOrder payload now := by
  obtain ⟨-, hschema, hnonce, htimestamp⟩ := fullValidate_eq_ok.1 h
  exact ⟨payload.version_eq, payload.nhpSbaIntent.actionClass_mem,
    payload.nhpSbaContext.currentEdns_mem, payload.nhpSbaContext.agentConfidenceScore_mem,
    validateSchema_eq_ok.1 hschema, validateNonce_eq_ok.1 hnonce,
    (validateTimestamp_eq_ok.1 htimestamp).2⟩

/-- The first gap: any other failure of the JSON reader escapes. -/
theorem fullValidate_otherError {exc : String} (h : R.jsonLoads (.inl rawPayload) = .error exc)
    (hother : M.isDecodeError rawPayload ≠ true) :
    fullValidate R M rawPayload now = .error (.valueError exc) := by
  rw [fullValidate, parse, h]
  dsimp only
  rw [if_neg hother]
  rfl

/-- The second gap: the conversion of a timestamp beyond the range of a
`float` escapes. -/
theorem fullValidate_overflow (hparse : parse R M rawPayload = .ok payload)
    (hkey : KeyInOrder payload) (hnonce : NonceInOrder payload)
    (hover : floatOverflow ≤ payload.timestamp) :
    fullValidate R M rawPayload now =
      .error (.overflowError "int too large to convert to float") := by
  have hschema : validateSchema R payload = .ok () := validateSchema_eq_ok.2 hkey
  have hpassed : validateNonce payload = .ok () := validateNonce_eq_ok.2 hnonce
  rw [fullValidate, hparse]
  simp only [bind, Except.bind, hschema, hpassed]
  rw [validateTimestamp, if_pos hover]

/-- The steps after the first, of a payload without the second gap: the
first that fails raises a `KnkParseError`. -/
theorem fullValidate_parsed (now : ℚ) (hparse : parse R M rawPayload = .ok payload)
    (hfloat : KeyInOrder payload → NonceInOrder payload → payload.timestamp < floatOverflow) :
    fullValidate R M rawPayload now = .ok payload ∨
      ParseError (fullValidate R M rawPayload now) := by
  rw [fullValidate, hparse]
  rcases validateSchema_parseError R payload with
    hschema | ⟨message, field, hfailed⟩
  · rcases validateNonce_parseError payload with
      hnonce | ⟨message, field, hfailed⟩
    · -- the timestamp is converted only past the key and the nonce
      have hsmall := hfloat (validateSchema_eq_ok.1 hschema) (validateNonce_eq_ok.1 hnonce)
      rcases validateTimestamp_parseError R now hsmall with
        htimestamp | ⟨message, field, hfailed⟩
      · left
        simp only [bind, Except.bind, hschema, hnonce, htimestamp]
        rfl
      · right
        simp only [bind, Except.bind, hschema, hnonce, hfailed]
        exact ⟨message, field, rfl⟩
    · right
      simp only [bind, Except.bind, hschema, hfailed]
      exact ⟨message, field, rfl⟩
  · right
    simp only [bind, Except.bind, hfailed]
    exact ⟨message, field, rfl⟩

/-- An exception of another kind is no answer. -/
theorem not_answers {exc : PyException} (h : fullValidate R M rawPayload now = .error exc)
    (hkind : ∀ message field, exc ≠ .knkParseError message field) :
    ¬ Answers R M rawPayload now := by
  rintro (⟨payload, hok, -⟩ | ⟨message, field, herror⟩)
  · rw [h] at hok
    cases hok
  · rw [h] at herror
    exact hkind message field (Except.error.inj herror)

/-- **The two gaps are all.** For every byte string and every clock,
`full_validate` returns a payload in order or raises a `KnkParseError`
exactly when neither gap is met. -/
theorem answers_iff (R : Runtime K J) (M : Schema) (rawPayload : Bytes) (now : ℚ) :
    Answers R M rawPayload now ↔ NoGap R M rawPayload := by
  constructor
  · intro h
    constructor
    · intro exc hloads
      by_contra hother
      exact not_answers (fullValidate_otherError hloads hother) (by simp) h
    · intro data payload hloads hmodel hkey hnonce
      by_contra hover
      have hparse : parse R M rawPayload = .ok payload := parse_eq_ok.2 ⟨data, hloads, hmodel⟩
      exact not_answers (fullValidate_overflow hparse hkey hnonce (Int.not_lt.1 hover)) (by simp) h
  · intro h
    rcases parse_parseError h.json with ⟨payload, hparse⟩ | ⟨message, field, hfailed⟩
    · obtain ⟨data, hloads, hmodel⟩ := parse_eq_ok.1 hparse
      rcases fullValidate_parsed now hparse (h.timestamp data payload hloads hmodel) with
        hok | herror
      · exact Or.inl ⟨payload, hok, inOrder_of_ok hok⟩
      · exact Or.inr herror
    · refine Or.inr ⟨message, field, ?_⟩
      rw [fullValidate, hfailed]
      rfl

end NhpKnkParser

/-! ## A timestamp of four hundred digits -/

namespace Sample

open NhpKnkParser Agent

/-- Packages that know one text read it. -/
theorem loads_one (text : String) (v : PyValue) :
    (runtime [(text, v)]).jsonLoads (.inl (encodeUtf8 text)) = .ok v :=
  loads_inl List.lookup_cons_self

/-- The token in it, which the parser does not open. -/
def lateToken : String := "eyJhbGciOiJFZERTQSJ9.e30.c2lnbmF0dXJl"

/-- A time of four hundred and one digits. -/
def lateClock : ℚ := 10 ^ 400

/-- The agent's knock, had its clock shown that time. -/
def lateKnk : Dict := knk "agent-001" (1 / 2) 1 lateClock agentUuid (key 7) lateToken

/-- Packages that read its text. -/
def latePackages : Runtime Bytes String := runtime [(agentDumps 5 (.dict lateKnk), .dict lateKnk)]

/-- **The overflow escapes.** -/
theorem late_not_answers : ¬ Answers latePackages agentSchema
    (encodeUtf8 (agentDumps 5 (.dict lateKnk))) 1700000000 := by
  have hlen : (key 7).length = 32 := length_key 7
  have hnode : LengthBetween 1 256 "agent-001" := by decide +kernel
  have hedns : UnitRange (1 / 2) := by constructor <;> norm_num
  have hscore : UnitRange 1 := by constructor <;> norm_num
  have hstart : 1 ≤ lateClock := one_le_pow₀ (by norm_num)
  have htoken : 1 ≤ lateToken.length := by decide +kernel
  have hloads : latePackages.jsonLoads (.inl (encodeUtf8 (agentDumps 5 (.dict lateKnk)))) =
      .ok (.dict lateKnk) := loads_one _ _
  have hmodel : NhpKnkPayload.modelValidate agentSchema (.dict lateKnk) =
      some (sent hlen hnode hedns hscore hstart agentUuid htoken) :=
    modelValidate_knk hlen hnode hedns hscore hstart htoken
  have hparse : parse latePackages agentSchema (encodeUtf8 (agentDumps 5 (.dict lateKnk))) =
      .ok (sent hlen hnode hedns hscore hstart agentUuid htoken) :=
    parse_eq_ok.2 ⟨.dict lateKnk, hloads, hmodel⟩
  obtain ⟨hnonce, hentropy⟩ := nonceVal_spec agentUuid
  have hinteger : lateClock = ((10 ^ 400 : ℤ) : ℚ) := by
    rw [lateClock, Int.cast_pow, Int.cast_ofNat]
  -- the timestamp is the clock, and the clock is an integer
  have hover : floatOverflow ≤
      (sent hlen hnode hedns hscore hstart agentUuid htoken).timestamp := by
    rw [timestamp_sent, truncate_of_nonneg (le_trans zero_le_one hstart), hinteger,
      Int.floor_intCast]
    decide +kernel
  refine not_answers (fullValidate_overflow hparse ?_ ?_ hover) (by simp)
  · exact ⟨key 7, b64decode_sent hlen hnode hedns hscore hstart agentUuid htoken, hlen⟩
  · exact ⟨agentUuid.bytes, hnonce, agentUuid.length_eq.ge, hentropy⟩

end Sample

end Knock

end NhpSba
