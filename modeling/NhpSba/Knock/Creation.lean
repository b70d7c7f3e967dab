import NhpSba.Knock.Sample
/-!
# Knock — no token is ever created

A compact token starts with its header segment, and the base64url of a
JSON object starts with an `e` (`segment_starts`), which no JSON text
starts with. So `create_compact_eddsa`, which reads its token as JSON,
raises whenever it has got as far as a token (`never_created`).
-/

namespace NhpSba

namespace Knock

variable {K J : Type} {R : Runtime K J} {S : Signing J}

/-! ## The laws of the packages -/

/-- The characters that a JSON text can start with, to Python's reader,
which also knows `NaN` and `Infinity`. -/
def jsonStarters : List Char :=
  [' ', '\t', '\n', '\r', '\x7b', '[', '"', '-', '0', '1', '2', '3', '4', '5', '6', '7', '8', '9',
    't', 'f', 'n', 'N', 'I']

/-- What the JSON reader accepts starts like a JSON text. -/
def ReadsJson (R : Runtime K J) : Prop :=
  ∀ text v, R.jsonLoads (.inr text) = .ok v →
    ∃ c rest, text.toList = c :: rest ∧ c ∈ jsonStarters

/-- The JSON writer writes a `dict` as an object. -/
def WritesObjects (S : Signing J) : Prop :=
  ∀ d, ∃ rest, S.jsonDumps (.dict d) = "\x7b" ++ rest

/-! ## How a token starts -/

/-- The text of an object is encoded with the byte of a brace first. -/
theorem encodeUtf8_brace (rest : String) : ∃ bytes, encodeUtf8 ("\x7b" ++ rest) = 0x7B :: bytes := by
  refine ⟨encodeUtf8 rest, ?_⟩
  have hbrace : encodeUtf8 "\x7b" = [0x7B] := by decide
  have happend : encodeUtf8 ("\x7b" ++ rest) = encodeUtf8 "\x7b" ++ encodeUtf8 rest := by
    simp [encodeUtf8, String.toByteArray_append]
  rw [happend, hbrace, List.singleton_append]

/-- The base64url of such bytes starts with an `e`, which is no padding. -/
theorem unpadded_brace (bytes : Bytes) :
    ∃ rest, (unpadded (0x7B :: bytes)).toList = 'e' :: rest := by
  -- the first character is six bits of the brace, whatever comes after it
  have hfirst : ∃ rest, Base64.urlsafeB64encode (0x7B :: bytes) = 'e' :: rest := by
    match bytes with
    | [] => exact ⟨_, rfl⟩
    | [_] => exact ⟨_, rfl⟩
    | _ :: _ :: _ => exact ⟨_, rfl⟩
  obtain ⟨rest, hrest⟩ := hfirst
  rw [unpadded, String.toList_ofList, hrest, Base64.stripPadding]
  have hprefix := List.rdropWhile_prefix (fun c => decide (c = '=')) ('e' :: rest)
  cases hkept : ('e' :: rest).rdropWhile (fun c => decide (c = '=')) with
  | nil =>
    have hpad := List.rdropWhile_eq_nil_iff.1 hkept 'e' (List.mem_cons_self ..)
    exact absurd (of_decide_eq_true hpad) (by decide)
  | cons c kept =>
    rw [hkept] at hprefix
    obtain ⟨rfl, -⟩ := List.cons_prefix_cons.1 hprefix
    exact ⟨kept, rfl⟩

/-- **A compact token is no JSON text**: it starts with an `e`. -/
theorem jsonLoads_compact (hreads : ReadsJson R) (hwrites : WritesObjects S)
    (hshape : CompactShape S) {payload : Bytes} {key : J} {alg : Option String} {header : Dict}
    {token : String} (h : S.compact payload key alg (S.jsonDumps (.dict header)) = .ok token) :
    ∃ message, R.jsonLoads (.inr token) = .error message := by
  obtain ⟨text, htext⟩ := hwrites header
  obtain ⟨bytes, hbytes⟩ := encodeUtf8_brace text
  obtain ⟨signature, rfl⟩ := hshape _ _ _ _ _ h
  obtain ⟨rest, hrest⟩ := unpadded_brace bytes
  cases hloads : R.jsonLoads (.inr (unpadded (encodeUtf8 (S.jsonDumps (.dict header))) ++ "." ++
      unpadded payload ++ "." ++ unpadded signature)) with
  | error message => exact ⟨message, rfl⟩
  | ok v =>
    obtain ⟨c, cs, hstart, hmem⟩ := hreads _ v hloads
    rw [htext, hbytes] at hstart
    simp only [String.toList_append, hrest, List.cons_append] at hstart
    obtain ⟨rfl, -⟩ := List.cons.inj hstart
    exact absurd hmem (by decide)

/-! ## Creation -/

/-- **What creation and verification promise each other.** A token is
returned, and it verifies to the claims as they come back from JSON. -/
def RoundTrips (R : Runtime K J) (S : Signing J) (claims : Dict) (seed publicKey : Bytes) : Prop :=
  ∃ token returned,
    JwsVerifier.createCompactEddsa R S claims (seed ++ publicKey) = .ok token ∧
    R.jsonLoads (.inr (S.jsonDumps (.dict claims))) = .ok (.dict returned) ∧
    JwsVerifier.verifyCompact R token publicKey = .ok returned

/-- A signing key exports the public half it was built with. -/
def ExportsPublic (S : Signing J) : Prop :=
  ∀ d x key, S.privateJwk d x = .ok key → S.exportX key = x

/-- What is signed would verify: only the step after it is at fault. -/
theorem verifyCompact_signed (hshape : CompactShape S) (hopens : OpensSigned R S)
    (hexports : ExportsPublic S) {claims : Dict} {seed publicKey : Bytes} {jwkKey : J}
    {token : String} (hseed : seed.length = 32) (hlen : publicKey.length = 32)
    (hjwk : R.jwk (unpadded publicKey) = .ok jwkKey)
    (hheader : ReadsBack R S JwsVerifier.creationHeader) (hclaims : ReadsBack R S (.dict claims))
    (htoken : JwsVerifier.signCompact S claims (seed ++ publicKey) = .ok token) :
    JwsVerifier.verifyCompact R token publicKey = .ok claims := by
  obtain ⟨key, hkey, hcompact⟩ := bind_eq_ok.1 htoken
  rw [List.drop_left' hseed] at hkey
  exact JwsVerifier.verifyCompact_compact hshape hopens hcompact (hexports _ _ _ hkey) hlen hjwk
    hheader rfl hclaims

/-- **No token is ever returned.** Whatever the claims and the key pair,
creation and verification do not round-trip: where the packages sign, what
comes back is the `ValueError` of the JSON reader on the token. -/
theorem never_created (hreads : ReadsJson R) (hwrites : WritesObjects S) (hshape : CompactShape S)
    (claims : Dict) (seed publicKey : Bytes) :
    ¬RoundTrips R S claims seed publicKey ∧
    ∀ token, JwsVerifier.signCompact S claims (seed ++ publicKey) = .ok token →
      ∃ message, R.jsonLoads (.inr token) = .error message ∧
        JwsVerifier.createCompactEddsa R S claims (seed ++ publicKey)
          = .error (.valueError message) := by
  have hsigned : ∀ token, JwsVerifier.signCompact S claims (seed ++ publicKey) = .ok token →
      ∃ message, R.jsonLoads (.inr token) = .error message ∧
        JwsVerifier.createCompactEddsa R S claims (seed ++ publicKey)
          = .error (.valueError message) := by
    intro token htoken
    obtain ⟨jwkKey, -, hcompact⟩ := bind_eq_ok.1 htoken
    obtain ⟨message, hmessage⟩ := jsonLoads_compact hreads hwrites hshape hcompact
    refine ⟨message, hmessage, ?_⟩
    rw [JwsVerifier.createCompactEddsa, htoken]
    simp only [bind, Except.bind, hmessage, orValueError]
  refine ⟨?_, hsigned⟩
  -- a round trip would start from a token that was returned
  rintro ⟨token, returned, hcreate, -, -⟩
  obtain ⟨signed, htoken, -⟩ := bind_eq_ok.1 hcreate
  obtain ⟨message, -, herror⟩ := hsigned signed htoken
  rw [hcreate] at herror
  cases herror

/-! ## Sample claims -/

namespace Sample

theorem signing_writesObjects : WritesObjects signing := by
  intro d
  refine ⟨", ".intercalate (d.map fun kv => "\"" ++ kv.1 ++ "\"" ++ ": " ++ dumps 1 kv.2) ++ "\x7d",
    ?_⟩
  rw [← String.append_assoc]
  rfl

/-- The sample reader reads objects only. -/
theorem packages_readsJson (signed : List Dict) : ReadsJson (packages (signed.map .dict)) := by
  intro text v h
  have hmem : ∃ d, text = dumps 2 (.dict d) := by
    simp only [packages, runtime_jsonLoads, loads, loads.loadsText] at h
    split at h
    · next w hlookup =>
      obtain ⟨front, back, hsplit, -⟩ := List.lookup_eq_some_iff.1 hlookup
      have hin : (text, w) ∈ (header :: signed.map .dict).map fun v => (dumps 2 v, v) := by
        rw [hsplit]
        exact List.mem_append_right _ (List.mem_cons_self ..)
      obtain ⟨value, hvalue, heq⟩ := List.mem_map.1 hin
      obtain ⟨rfl, -⟩ := Prod.mk.inj heq
      rcases List.mem_cons.1 hvalue with rfl | hvalue
      · exact ⟨_, rfl⟩
      · obtain ⟨d, -, rfl⟩ := List.mem_map.1 hvalue
        exact ⟨d, rfl⟩
    · cases h
  obtain ⟨d, rfl⟩ := hmem
  obtain ⟨rest, hrest⟩ := signing_writesObjects d
  have hdumps : dumps 2 (.dict d) = "\x7b" ++ rest := hrest
  refine ⟨'\x7b', rest.toList, ?_, by decide⟩
  rw [hdumps, String.toList_append]
  rfl

/-- The claims of a short token. -/
def greetingClaims : Dict := [("sub", .str "agent-001"), ("role", .str "operator")]

/-- They are signed, and the token is read as JSON. -/
theorem never_created_greeting :
    ¬RoundTrips (packages [.dict greetingClaims]) signing greetingClaims (key 1) (key 7) ∧
    ∀ token, JwsVerifier.signCompact signing greetingClaims (key 1 ++ key 7) = .ok token →
      ∃ message, (packages [.dict greetingClaims]).jsonLoads (.inr token) = .error message ∧
        JwsVerifier.createCompactEddsa (packages [.dict greetingClaims]) signing greetingClaims
          (key 1 ++ key 7) = .error (.valueError message) :=
  never_created (packages_readsJson [greetingClaims]) signing_writesObjects
    signing_compactShape greetingClaims (key 1) (key 7)

/-- What is signed for them. -/
theorem signCompact_greeting :
    JwsVerifier.signCompact signing greetingClaims (key 1 ++ key 7) = .ok (
      unpadded (encodeUtf8 (dumps 2 JwsVerifier.creationHeader)) ++ "." ++
        unpadded (encodeUtf8 (dumps 2 (.dict greetingClaims))) ++ "." ++ unpadded (key 7)) := by
  have hx : (key 1 ++ key 7).drop 32 = key 7 := List.drop_left' (length_key 1)
  refine bind_eq_ok.2 ⟨unpadded (key 7), ?_, signing_compact_eq_ok.2 ⟨key 7, rfl, rfl⟩⟩
  rw [hx]
  rfl

/-- The key pair is good and the packages sign, but no token comes back. -/
theorem greeting_not_created :
    (∃ token, JwsVerifier.signCompact signing greetingClaims (key 1 ++ key 7) = .ok token) ∧
    (∃ message, JwsVerifier.createCompactEddsa (packages [.dict greetingClaims]) signing
      greetingClaims (key 1 ++ key 7) = .error (.valueError message)) ∧
    ¬RoundTrips (packages [.dict greetingClaims]) signing greetingClaims (key 1) (key 7) := by
  have hjson : ReadsJson (packages [.dict greetingClaims]) := packages_readsJson [greetingClaims]
  obtain ⟨jwkKey, -, hcompact⟩ := bind_eq_ok.1 signCompact_greeting
  obtain ⟨message, hmessage⟩ :=
    jsonLoads_compact hjson signing_writesObjects signing_compactShape hcompact
  have hcreate : JwsVerifier.createCompactEddsa (packages [.dict greetingClaims]) signing
      greetingClaims (key 1 ++ key 7) = .error (.valueError message) := by
    rw [JwsVerifier.createCompactEddsa, signCompact_greeting]
    simp only [bind, Except.bind, hmessage, orValueError]
  refine ⟨⟨_, signCompact_greeting⟩, ⟨message, hcreate⟩, ?_⟩
  rintro ⟨token, returned, htoken, -, -⟩
  rw [hcreate] at htoken
  cases htoken

end Sample

end Knock

end NhpSba
