import NhpSba.Common.Fallible
import NhpSba.Knock.Model.Signing
/-!
# Knock — what is signed verifies

The laws of the signing package, and `verifyCompact_compact`: a compact
token of some claims verifies, under the public half of the key, to those
claims. Both sides of `JwsVerifier` rest on it, and so does the agent.
-/

namespace NhpSba

namespace Knock

variable {K J : Type} {R : Runtime K J} {S : Signing J}

/-! ## The laws of the packages -/

/-- **Compact serialisation**: three unpadded base64url segments joined by
dots, of the header, the payload and the signature. -/
def CompactShape (S : Signing J) : Prop :=
  ∀ payload key alg header token, S.compact payload key alg header = .ok token →
    ∃ signature, token = unpadded (encodeUtf8 header) ++ "." ++ unpadded payload ++ "." ++
      unpadded signature

/-- **Verification accepts what signing produced**, under the public half
of the key, and hands the payload over. -/
def OpensSigned (R : Runtime K J) (S : Signing J) : Prop :=
  ∀ payload key alg header token jwkKey, S.compact payload key alg header = .ok token →
    R.jwk (S.exportX key) = .ok jwkKey → R.jwsOpen token jwkKey = .ok (.inl payload)

/-- A value comes back from its JSON text, whether the text is read as it
is or in UTF-8. -/
def ReadsBack (R : Runtime K J) (S : Signing J) (v : PyValue) : Prop :=
  R.jsonLoads (.inr (S.jsonDumps v)) = .ok v ∧
    R.jsonLoads (.inl (encodeUtf8 (S.jsonDumps v))) = .ok v

/-! ## Segments -/

theorem fromUTF8_encodeUtf8 (text : String) :
    String.fromUTF8? ⟨(encodeUtf8 text).toArray⟩ = some text := by
  have hbytes : (⟨(encodeUtf8 text).toArray⟩ : ByteArray) = text.toUTF8 := by simp [encodeUtf8]
  have hvalid : text.toUTF8.IsValidUTF8 := text.isValidUTF8
  rw [hbytes, String.fromUTF8?, dif_pos hvalid]
  rfl

theorem decode_unpadded (data : Bytes) :
    Base64.urlsafeB64decode (Base64.restorePadding (unpadded data).toList) = .ok data := by
  rw [unpadded, String.toList_ofList, Base64.restorePadding_stripPadding,
    Base64.urlsafeB64decode_urlsafeB64encode]

theorem dot_not_mem_unpadded (data : Bytes) : '.' ∉ (unpadded data).toList := by
  intro hmem
  rw [unpadded, String.toList_ofList] at hmem
  exact Base64.dot_not_mem_urlsafeB64encode data ((List.rdropWhile_prefix _ _).subset hmem)

/-- A compact token splits into its segments: none holds a dot. -/
theorem splitOn_compact (header payload signature : Bytes) :
    (unpadded header ++ "." ++ unpadded payload ++ "." ++ unpadded signature).toList.splitOn '.' =
      [(unpadded header).toList, (unpadded payload).toList, (unpadded signature).toList] := by
  have hjoin : (unpadded header ++ "." ++ unpadded payload ++ "." ++ unpadded signature).toList =
      List.intercalate ['.']
        [(unpadded header).toList, (unpadded payload).toList, (unpadded signature).toList] := by
    simp [List.intercalate, List.intersperse]
  rw [hjoin]
  refine List.splitOn_intercalate _ (fun l hl => ?_) (by simp)
  simp only [List.mem_cons, List.not_mem_nil, or_false] at hl
  rcases hl with rfl | rfl | rfl <;>
  exact dot_not_mem_unpadded _

/-! ## Verification -/

namespace JwsVerifier

/-- The key of 32 bytes is handed over as the package takes it. -/
theorem bytesToJwk_eq {publicKey : Bytes} {jwkKey : J} (hlen : publicKey.length = 32)
    (hjwk : R.jwk (unpadded publicKey) = .ok jwkKey) :
    bytesToJwk R publicKey = .ok jwkKey := by
  rw [unpadded] at hjwk
  rw [bytesToJwk, if_neg (not_not.2 hlen)]
  simp only [hjwk]

/-- A header that names EdDSA passes. -/
theorem checkHeader_unpadded {text : String} {header : Dict}
    (hloads : R.jsonLoads (.inl (encodeUtf8 text)) = .ok (.dict header))
    (halg : header.lookup "alg" = some (.str "EdDSA")) :
    checkHeader R (unpadded (encodeUtf8 text)).toList = .ok () := by
  have hdecode : decodeHeader R (unpadded (encodeUtf8 text)).toList = .ok (.dict header) := by
    rw [decodeHeader, decode_unpadded]
    simp [bind, Except.bind, orValueError, hloads]
  have hread : readHeader R (unpadded (encodeUtf8 text)).toList = .ok () := by
    rw [readHeader, hdecode]
    simp [bind, Except.bind, callGet, PyValue.dict?, halg]
  rw [checkHeader, hread]

/-- A token that opens to the text of some claims reads as those claims. -/
theorem readClaims_eq {token text : String} {jwkKey : J} {claims : Dict}
    (hopen : R.jwsOpen token jwkKey = .ok (.inl (encodeUtf8 text)))
    (hloads : R.jsonLoads (.inr text) = .ok (.dict claims)) :
    readClaims R token jwkKey = .ok claims := by
  have hclaims : openClaims R token jwkKey = .ok claims := by
    rw [openClaims, hopen]
    simp [bind, Except.bind, utf8Decode, fromUTF8_encodeUtf8, hloads, orValueError, callKeys,
      PyValue.dict?]
  rw [readClaims, hclaims]

/-- **A token of three segments verifies to its claims**, where its header
names EdDSA and it opens to their text. -/
theorem verifyCompact_eq {headerText claimsText : String} {signature publicKey : Bytes}
    {claims header : Dict} {jwkKey : J}
    (hopen : R.jwsOpen (unpadded (encodeUtf8 headerText) ++ "." ++
      unpadded (encodeUtf8 claimsText) ++ "." ++ unpadded signature) jwkKey =
        .ok (.inl (encodeUtf8 claimsText)))
    (hlen : publicKey.length = 32) (hjwk : R.jwk (unpadded publicKey) = .ok jwkKey)
    (hheader : R.jsonLoads (.inl (encodeUtf8 headerText)) = .ok (.dict header))
    (halg : header.lookup "alg" = some (.str "EdDSA"))
    (hclaims : R.jsonLoads (.inr claimsText) = .ok (.dict claims)) :
    verifyCompact R (unpadded (encodeUtf8 headerText) ++ "." ++
      unpadded (encodeUtf8 claimsText) ++ "." ++ unpadded signature) publicKey = .ok claims := by
  have hsplit := splitOn_compact (encodeUtf8 headerText) (encodeUtf8 claimsText) signature
  unfold verifyCompact
  split
  · next hempty =>
    -- an empty token would have one segment
    rw [hempty] at hsplit
    simp at hsplit
  · simp only [hsplit, List.headD_cons, checkHeader_unpadded hheader halg]
    rw [if_neg (by simp)]
    exact bind_eq_ok.2 ⟨(), rfl, bind_eq_ok.2 ⟨jwkKey, bytesToJwk_eq hlen hjwk,
      readClaims_eq hopen hclaims⟩⟩

/-- **A compact token verifies to its claims**, under the public half of
the key it was signed with. -/
theorem verifyCompact_compact (hshape : CompactShape S) (hopens : OpensSigned R S)
    {claims header : Dict} {key jwkKey : J} {publicKey : Bytes} {alg : Option String}
    {token : String}
    (hcompact : S.compact (encodeUtf8 (S.jsonDumps (.dict claims))) key alg
      (S.jsonDumps (.dict header)) = .ok token)
    (hkey : S.exportX key = unpadded publicKey) (hlen : publicKey.length = 32)
    (hjwk : R.jwk (unpadded publicKey) = .ok jwkKey)
    (hheader : ReadsBack R S (.dict header)) (halg : header.lookup "alg" = some (.str "EdDSA"))
    (hclaims : ReadsBack R S (.dict claims)) :
    verifyCompact R token publicKey = .ok claims := by
  have hopen := hopens _ _ _ _ _ _ hcompact (hkey ▸ hjwk)
  obtain ⟨signature, rfl⟩ := hshape _ _ _ _ _ hcompact
  exact verifyCompact_eq hopen hlen hjwk hheader.2 halg hclaims.1

end JwsVerifier

end Knock

end NhpSba
