import NhpSba.Knock.Model.Runtime
import NhpSba.Common.Fallible
import Mathlib.Data.List.AList
/-!
# Knock — the trust store

`TrustStore` maps node ids to Ed25519 public keys, once as key objects and
once as raw bytes.
-/

namespace NhpSba

namespace Knock

open Fallible

/-- The two dictionaries of a `TrustStore`. -/
structure TrustStore (K : Type) where
  trustedKeys : AList fun _ : String => K
  keyBytesMap : AList fun _ : String => Bytes

namespace TrustStore

variable {K J : Type} (R : Runtime K J)

/-- A new store is empty. -/
def empty : TrustStore K := ⟨∅, ∅⟩

/-- `self._trusted_keys[node_id] = key; self._key_bytes_map[node_id] = raw`. -/
def put (store : TrustStore K) (nodeId : String) (key : K) (raw : Bytes) : TrustStore K :=
  { trustedKeys := store.trustedKeys.insert nodeId key
    keyBytesMap := store.keyBytesMap.insert nodeId raw }

/-- `load_key`. An error of the body that is no `ValueError`, the
`TrustStoreError` for a key of another kind included, is wrapped once more. -/
def loadKey (nodeId publicKeyPem : String) : Fallible PyException (TrustStore K) Unit :=
  match R.loadPemPublicKey publicKeyPem.toUTF8.toList with
  | .ok (some publicKey) => write fun store => store.put nodeId publicKey (R.publicBytes publicKey)
  | .ok none =>
    let exc := s!"Key for node '{nodeId}' is not an Ed25519 public key"
    raise (.trustStoreError s!"Unexpected error loading key for node '{nodeId}': {exc}")
  | .error (.valueError exc) =>
    raise (.trustStoreError s!"Failed to parse PEM for node '{nodeId}': {exc}")
  | .error exc =>
    raise (.trustStoreError s!"Unexpected error loading key for node '{nodeId}': {exc.message}")

/-- `load_key_bytes`. -/
def loadKeyBytes (nodeId : String) (publicKeyBytes : Bytes) :
    Fallible PyException (TrustStore K) Unit :=
  if publicKeyBytes.length ≠ 32 then
    raise (.trustStoreError
      s!"Ed25519 public key must be exactly 32 bytes, got {publicKeyBytes.length}")
  else
    match R.fromPublicBytes publicKeyBytes with
    | .ok publicKey => write fun store => store.put nodeId publicKey publicKeyBytes
    | .error exc =>
      raise (.trustStoreError
        s!"Failed to create Ed25519 key for node '{nodeId}': {exc.message}")

/-- `remove_key`. -/
def removeKey (store : TrustStore K) (nodeId : String) : TrustStore K :=
  { trustedKeys := store.trustedKeys.erase nodeId
    keyBytesMap := store.keyBytesMap.erase nodeId }

/-- `is_trusted`. -/
def isTrusted (store : TrustStore K) (nodeId : String) (publicKeyBytes : Bytes) : Bool :=
  match store.keyBytesMap.lookup nodeId with
  | none => false
  | some storedBytes =>
    if publicKeyBytes.length ≠ 32 ∨ storedBytes.length ≠ 32 then false
    else
      match R.fromPublicBytes storedBytes, R.fromPublicBytes publicKeyBytes with
      | .ok storedKey, .ok providedKey =>
        R.publicBytes storedKey = R.publicBytes providedKey
      | _, _ => false

end TrustStore

end Knock

end NhpSba
