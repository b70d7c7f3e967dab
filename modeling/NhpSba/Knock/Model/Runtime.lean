import NhpSba.Python.Value
/-!
# Knock — the server's exceptions, and what it takes from its packages

The policy decision point calls two packages for cryptography, `jwcrypto`
and `cryptography`, and the JSON reader. They are the fields of `Runtime`;
everything else the server does is defined here. A result of the server is
about every `Runtime`, so about whatever the packages answer.
-/

namespace NhpSba

namespace Knock

/-- The exceptions that cross the server's functions. `binascii.Error`,
`JSONDecodeError` and `UnicodeDecodeError` are `ValueError`s; `other` is
any exception of a package that no handler names. -/
inductive PyException
  | valueError (message : String)
  | attributeError (message : String)
  | overflowError (message : String)
  | invalidJWSSignature (message : String)
  | invalidJWSObject (message : String)
  | other (message : String)
  | jwsVerificationError (message : String)
  | jwtValidationError (message rejectionReason : String)
  | trustStoreError (message : String)
  | knkParseError (message field : String)

/-- `str(exc)`. -/
def PyException.message : PyException → String
  | .valueError m => m
  | .attributeError m => m
  | .overflowError m => m
  | .invalidJWSSignature m => m
  | .invalidJWSObject m => m
  | .other m => m
  | .jwsVerificationError m => m
  | .jwtValidationError m _ => m
  | .trustStoreError m => m
  | .knkParseError m _ => m

/-- What the server takes from its packages. `K` is the type of Ed25519
public key objects and `J` that of JWK objects. -/
structure Runtime (K J : Type) where
  /-- `json.loads` of bytes or of a `str`; it fails with a `ValueError`. The
  `RecursionError` of a document nested too deep is left out. -/
  jsonLoads : Bytes ⊕ String → Except String PyValue
  /-- The text of the `UnicodeDecodeError` for bytes that are not UTF-8. -/
  unicodeDecodeError : Bytes → String
  /-- `f"{v}"`. -/
  formatValue : PyValue → String
  /-- `f"{t:.1f}"`. -/
  formatTime : ℚ → String
  /-- `jwk.JWK(kty="OKP", crv="Ed25519", x=x)`. -/
  jwk : String → Except PyException J
  /-- `JWS().deserialize(token)`, `verify(key)`, then `payload`. -/
  jwsOpen : String → J → Except PyException (Bytes ⊕ String)
  /-- `Ed25519PublicKey.from_public_bytes(data)`. -/
  fromPublicBytes : Bytes → Except PyException K
  /-- `key.public_bytes(Raw, Raw)`. -/
  publicBytes : K → Bytes
  /-- `load_pem_public_key(data)`: a key that is Ed25519, or one that is
  not. -/
  loadPemPublicKey : Bytes → Except PyException (Option K)

/-- Raise a `ValueError` with the given text. -/
def orValueError {α : Type} : Except String α → Except PyException α
  | .ok a => .ok a
  | .error m => .error (.valueError m)

/-- `data.decode("utf-8")`. -/
def utf8Decode {K J : Type} (R : Runtime K J) (data : Bytes) : Except PyException String :=
  match String.fromUTF8? ⟨data.toArray⟩ with
  | some text => .ok text
  | none => .error (.valueError (R.unicodeDecodeError data))

/-- `v.get(key, default)`: only a `dict` has the method. -/
def callGet (v : PyValue) (key : String) (default : PyValue) : Except PyException PyValue :=
  match v.dict? with
  | some d => .ok ((d.lookup key).getD default)
  | none => .error (.attributeError s!"'{v.typeName}' object has no attribute 'get'")

/-- `v.keys()`: only a `dict` has the method. -/
def callKeys (v : PyValue) : Except PyException Dict :=
  match v.dict? with
  | some d => .ok d
  | none => .error (.attributeError s!"'{v.typeName}' object has no attribute 'keys'")

end Knock

end NhpSba
