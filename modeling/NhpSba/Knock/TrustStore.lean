import NhpSba.Common.Lookup
import NhpSba.Common.Machine
import NhpSba.Knock.Sample
/-!
# Knock — the trust store is a finite map

`TrustStore` keeps its keys twice, as objects and as raw bytes, and two
loaders write both. Whatever is called on it, both maps are the one map
that the successful loads and the removals describe (`Refines`), so a node
is trusted with exactly the key that was loaded for it last
(`refines_map`).
-/

namespace NhpSba

namespace Knock

namespace TrustStore

open Fallible Machine

variable {K J : Type}

/-- What is called on a store to change it. -/
inductive Update
  | loadKey (nodeId publicKeyPem : String)
  | loadKeyBytes (nodeId : String) (publicKeyBytes : Bytes)
  | removeKey (nodeId : String)

/-- One such call. -/
def step (R : Runtime K J) (store : TrustStore K) : Update → Except PyException Unit × TrustStore K
  | .loadKey nodeId publicKeyPem => call (loadKey R nodeId publicKeyPem) store
  | .loadKeyBytes nodeId publicKeyBytes => call (loadKeyBytes R nodeId publicKeyBytes) store
  | .removeKey nodeId => (.ok (), store.removeKey nodeId)

/-! ## The map that the calls describe -/

/-- What a call asks for: a load that finds a key asks to store it for its
node, and a removal to store none. -/
def asks (R : Runtime K J) : Update → Option (String × Option K)
  | .loadKey nodeId publicKeyPem =>
    match R.loadPemPublicKey publicKeyPem.toUTF8.toList with
    | .ok (some key) => some (nodeId, some key)
    | _ => none
  | .loadKeyBytes nodeId publicKeyBytes =>
    if publicKeyBytes.length = 32 then
      match R.fromPublicBytes publicKeyBytes with
      | .ok key => some (nodeId, some key)
      | .error _ => none
    else none
  | .removeKey nodeId => some (nodeId, none)

/-- What a call makes of the map. -/
def assign (R : Runtime K J) (keys : String → Option K) (update : Update) : String → Option K :=
  match asks R update with
  | some (nodeId, key) => Function.update keys nodeId key
  | none => keys

/-- The key that was last loaded for a node and not removed since. -/
def assigned (R : Runtime K J) (updates : List Update) : String → Option K :=
  updates.foldl (assign R) fun _ => none

/-- The laws of the raw encoding: it undoes decoding, and the key of a PEM
file has one, of 32 bytes, that decodes. -/
structure RawKeys (R : Runtime K J) : Prop where
  encode_decode : ∀ data key, R.fromPublicBytes data = .ok key → R.publicBytes key = data
  decode_encode : ∀ pem key, R.loadPemPublicKey pem = .ok (some key) →
    R.fromPublicBytes (R.publicBytes key) = .ok key
  length_encode : ∀ pem key, R.loadPemPublicKey pem = .ok (some key) →
    (R.publicBytes key).length = 32

/-- **A store is a map of keys**: its objects are the map's, its bytes are
their raw encodings, and each of these has 32 bytes and decodes. -/
structure Refines (R : Runtime K J) (store : TrustStore K) (keys : String → Option K) : Prop where
  objects : ∀ nodeId, store.trustedKeys.lookup nodeId = keys nodeId
  bytes : ∀ nodeId, store.keyBytesMap.lookup nodeId = (keys nodeId).map R.publicBytes
  decodes : ∀ nodeId key, keys nodeId = some key →
    R.fromPublicBytes (R.publicBytes key) = .ok key ∧ (R.publicBytes key).length = 32

variable {R : Runtime K J} {store : TrustStore K} {keys : String → Option K}

/-! ## One call -/

/-- **A call does what it asks for**, and a call that asks for nothing
raises and leaves the store as it was. -/
theorem step_asks (hraw : RawKeys R) (store : TrustStore K) (update : Update) :
    match asks R update with
    | none => (∃ exc, (step R store update).1 = .error exc) ∧ (step R store update).2 = store
    | some (nodeId, none) => step R store update = (.ok (), store.removeKey nodeId)
    | some (nodeId, some key) =>
      step R store update = (.ok (), store.put nodeId key (R.publicBytes key)) ∧
        R.fromPublicBytes (R.publicBytes key) = .ok key ∧ (R.publicBytes key).length = 32 := by
  cases update with
  | loadKey nodeId publicKeyPem =>
    simp only [asks, step, loadKey]
    cases hpem : R.loadPemPublicKey publicKeyPem.toUTF8.toList with
    | ok found =>
      cases found with
      | some key => exact ⟨rfl, hraw.decode_encode _ key hpem, hraw.length_encode _ key hpem⟩
      | none => exact ⟨⟨_, rfl⟩, rfl⟩
    | error exc => cases exc <;> exact ⟨⟨_, rfl⟩, rfl⟩
  | loadKeyBytes nodeId publicKeyBytes =>
    simp only [asks, step, loadKeyBytes]
    by_cases hlen : publicKeyBytes.length = 32
    · rw [if_pos hlen, if_neg (not_not.2 hlen)]
      cases hkey : R.fromPublicBytes publicKeyBytes with
      | ok key =>
        have hbytes := hraw.encode_decode _ key hkey
        simp only [hbytes]
        exact ⟨rfl, hkey, hlen⟩
      | error exc => exact ⟨⟨_, rfl⟩, rfl⟩
    · rw [if_neg hlen, if_pos hlen]
      exact ⟨⟨_, rfl⟩, rfl⟩
  | removeKey nodeId => exact rfl

/-- A call succeeds exactly when it asks for something. -/
theorem succeeded_step (hraw : RawKeys R) (store : TrustStore K) (update : Update) :
    succeeded (step R store update).1 = (asks R update).isSome := by
  have hasks := step_asks hraw store update
  split at hasks
  · next hwant =>
    obtain ⟨exc, hexc⟩ := hasks.1
    rw [hexc, hwant]
    rfl
  · next hwant =>
    rw [hasks, hwant]
    rfl
  · next hwant =>
    rw [hasks.1, hwant]
    rfl

/-- One that raises changes nothing. -/
theorem step_of_error (hraw : RawKeys R) (store : TrustStore K) (update : Update)
    {exc : PyException} (herror : (step R store update).1 = .error exc) :
    (step R store update).2 = store := by
  have hasks := step_asks hraw store update
  split at hasks
  · exact hasks.2
  · rw [hasks] at herror
    cases herror
  · rw [hasks.1] at herror
    cases herror

/-- Both maps of a store, and the map it is, change alike at one node. -/
theorem Refines.update {store' : TrustStore K} {nodeId : String} {wanted : Option K}
    (h : Refines R store keys)
    (hobjects : ∀ other, store'.trustedKeys.lookup other
      = Function.update (fun n => store.trustedKeys.lookup n) nodeId wanted other)
    (hbytes : ∀ other, store'.keyBytesMap.lookup other
      = Function.update (fun n => store.keyBytesMap.lookup n) nodeId
        (wanted.map R.publicBytes) other)
    (hdecodes : ∀ key, wanted = some key →
      R.fromPublicBytes (R.publicBytes key) = .ok key ∧ (R.publicBytes key).length = 32) :
    Refines R store' (Function.update keys nodeId wanted) := by
  have hkeys : (fun n => store.trustedKeys.lookup n) = keys := funext h.objects
  have hencoded : (fun n => store.keyBytesMap.lookup n) = fun n => (keys n).map R.publicBytes :=
    funext h.bytes
  refine ⟨fun other => ?_, fun other => ?_, fun other key hkey => ?_⟩
  · rw [hobjects, hkeys]
  · -- to encode the keys and then set one is to set it and then encode
    rw [hbytes, hencoded]
    exact (Function.apply_update (fun _ => Option.map R.publicBytes) keys nodeId wanted other).symm
  · by_cases hother : other = nodeId
    · subst hother
      rw [Function.update_self] at hkey
      exact hdecodes key hkey
    · rw [Function.update_of_ne hother] at hkey
      exact h.decodes other key hkey

/-- **One call keeps store and map together.** -/
theorem Refines.step (hraw : RawKeys R) (h : Refines R store keys) (update : Update) :
    Refines R (step R store update).2 (assign R keys update) := by
  have hasks := step_asks hraw store update
  unfold assign
  cases hwant : asks R update with
  | none =>
    rw [hwant] at hasks
    rw [hasks.2]
    exact h
  | some want =>
    obtain ⟨nodeId, wanted⟩ := want
    rw [hwant] at hasks
    cases wanted with
    | none =>
      simp only at hasks
      rw [hasks]
      exact h.update (lookup_erase_update _ nodeId) (lookup_erase_update _ nodeId)
        fun key hkey => by cases hkey
    | some key =>
      obtain ⟨hstep, hdecodes⟩ := hasks
      rw [hstep]
      refine h.update (fun other => lookup_insert_update _ nodeId other key)
        (fun other => lookup_insert_update _ nodeId other (R.publicBytes key)) fun key' hkey => ?_
      obtain rfl := Option.some.inj hkey
      exact hdecodes

/-- **And so does a run**, from an empty store. -/
theorem refines_after (hraw : RawKeys R) (updates : List Update) :
    Refines R (after (TrustStore.step R) TrustStore.empty updates) (assigned R updates) := by
  induction updates using List.reverseRecOn with
  | nil =>
    refine ⟨fun _ => rfl, fun _ => rfl, fun nodeId key hkey => ?_⟩
    cases hkey
  | append_singleton updates update ih =>
    rw [after_concat, assigned, List.foldl_append]
    exact ih.step hraw update

/-! ## What is trusted -/

/-- Both maps have the same nodes. -/
theorem Refines.mem_iff (h : Refines R store keys) (nodeId : String) :
    nodeId ∈ store.trustedKeys ↔ nodeId ∈ store.keyBytesMap := by
  rw [← AList.lookup_isSome, ← AList.lookup_isSome, h.objects, h.bytes, Option.isSome_map]

/-- Stored bytes are 32, and encode the stored key. -/
theorem Refines.encoded (h : Refines R store keys) (nodeId : String) (raw : Bytes)
    (hlookup : store.keyBytesMap.lookup nodeId = some raw) :
    raw.length = 32 ∧
      ∃ key, store.trustedKeys.lookup nodeId = some key ∧ raw = R.publicBytes key := by
  rw [h.bytes] at hlookup
  obtain ⟨key, hkey, rfl⟩ := Option.map_eq_some_iff.1 hlookup
  exact ⟨(h.decodes nodeId key hkey).2, key, (h.objects nodeId).trans hkey, rfl⟩

/-- **A node is trusted with its key's raw bytes and no others.** -/
theorem Refines.isTrusted_iff (hraw : RawKeys R) (h : Refines R store keys) (nodeId : String)
    (publicKeyBytes : Bytes) :
    store.isTrusted R nodeId publicKeyBytes = true ↔
      ∃ key, keys nodeId = some key ∧ R.publicBytes key = publicKeyBytes := by
  unfold isTrusted
  rw [h.bytes]
  cases hkey : keys nodeId with
  | none => simp
  | some key =>
    obtain ⟨hdecodes, hlen⟩ := h.decodes nodeId key hkey
    simp only [Option.map_some, hlen, hdecodes, ne_eq, not_true_eq_false, or_false,
      Option.some.injEq, exists_eq_left']
    by_cases hshort : publicKeyBytes.length = 32
    · rw [if_neg (not_not.2 hshort)]
      cases hprovided : R.fromPublicBytes publicKeyBytes with
      | ok provided =>
        rw [← hraw.encode_decode _ _ hprovided]
        exact decide_eq_true_iff
      | error exc =>
        -- what does not decode is not what was stored
        refine ⟨fun hfalse => absurd hfalse Bool.false_ne_true, fun hsame => ?_⟩
        rw [← hsame, hdecodes] at hprovided
        cases hprovided
    · rw [if_pos hshort]
      refine ⟨fun hfalse => absurd hfalse Bool.false_ne_true, fun hsame => ?_⟩
      rw [hsame] at hlen
      exact absurd hlen hshort

/-- **The trust store refines a finite map.** After any sequence of loads
and removals on an empty store: both maps have the same nodes; every
stored byte string has 32 bytes and is the raw encoding of the node's
stored key; a load succeeds exactly when it finds a key to store, and one
that raises changes nothing; and a node is trusted with exactly the raw
bytes of the key that was last loaded for it and not removed since. -/
theorem refines_map (hraw : RawKeys R) (updates : List Update) :
    let store := after (TrustStore.step R) TrustStore.empty updates
    (∀ nodeId, nodeId ∈ store.trustedKeys ↔ nodeId ∈ store.keyBytesMap) ∧
    (∀ nodeId raw, store.keyBytesMap.lookup nodeId = some raw → raw.length = 32 ∧
      ∃ key, store.trustedKeys.lookup nodeId = some key ∧ raw = R.publicBytes key) ∧
    (∀ update, succeeded (TrustStore.step R store update).1 = (asks R update).isSome) ∧
    (∀ update exc, (TrustStore.step R store update).1 = .error exc →
      (TrustStore.step R store update).2 = store) ∧
    ∀ nodeId publicKeyBytes, store.isTrusted R nodeId publicKeyBytes = true ↔
      ∃ key, assigned R updates nodeId = some key ∧ R.publicBytes key = publicKeyBytes := by
  intro store
  have h : Refines R store (assigned R updates) := refines_after hraw updates
  exact ⟨h.mem_iff, h.encoded, fun update => succeeded_step hraw store update,
    fun update exc herror => step_of_error hraw store update herror, h.isTrusted_iff hraw⟩

/-! ## A store that loads from both sources -/

/-- The PEM file of the sample key of sevens. -/
def sevensPem : String :=
  "-----BEGIN PUBLIC KEY-----\n" ++
  "MCowBQYDK2VwAyEABwcHBwcHBwcHBwcHBwcHBwcHBwcHBwcHBwcHBwcHBwc=\n" ++
  "-----END PUBLIC KEY-----\n"

/-- The packages, that read this one file. -/
def pemRuntime : Runtime Bytes String :=
  { Sample.runtime [] with
    loadPemPublicKey := fun data =>
      if data = sevensPem.toUTF8.toList then .ok (some (Sample.key 7))
      else .error (.valueError "Unable to load PEM file") }

theorem pemRuntime_rawKeys : RawKeys pemRuntime where
  encode_decode data key h := by
    simp only [pemRuntime, Sample.runtime] at h ⊢
    split at h
    · exact (Except.ok.inj h).symm
    · cases h
  decode_encode pem key h := by
    simp only [pemRuntime, Sample.runtime] at h ⊢
    split at h
    · obtain rfl := Option.some.inj (Except.ok.inj h)
      exact if_pos List.length_replicate
    · cases h
  length_encode pem key h := by
    simp only [pemRuntime, Sample.runtime] at h ⊢
    split at h
    · obtain rfl := Option.some.inj (Except.ok.inj h)
      exact List.length_replicate
    · cases h

/-- A file is loaded, a key too short is refused over it, and the file's
key stays trusted. -/
theorem refines_map_sevens :
    let store := after (TrustStore.step pemRuntime) TrustStore.empty
      [.loadKey "agent-001" sevensPem, .loadKeyBytes "agent-001" [1, 2, 3]]
    store.isTrusted pemRuntime "agent-001" (Sample.key 7) = true := by
  have hread : pemRuntime.loadPemPublicKey sevensPem.toUTF8.toList = .ok (some (Sample.key 7)) :=
    if_pos rfl
  have hassigned : assigned pemRuntime
      [.loadKey "agent-001" sevensPem, .loadKeyBytes "agent-001" [1, 2, 3]] "agent-001" =
        some (Sample.key 7) := by
    simp only [assigned, List.foldl_cons, List.foldl_nil, assign, asks, hread, List.length_cons,
      List.length_nil]
    rfl
  exact ((refines_map pemRuntime_rawKeys _).2.2.2.2 "agent-001" (Sample.key 7)).2
    ⟨Sample.key 7, hassigned, rfl⟩

end TrustStore

end Knock

end NhpSba
