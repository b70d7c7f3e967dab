import NhpSba.Common.Crypto
import NhpSba.Rust.LittleEndian
/-!
# The AEAD nonce

The nonce of the session cipher is twelve bytes, counted up for each
message.
-/

namespace NhpSba

namespace Session

open Rust

/-- NHP AEAD nonce. -/
structure NhpAeadNonce where
  bytes : Octets 12
  deriving DecidableEq

namespace NhpAeadNonce

/-- `increment`, with four zero bytes above the twelve for the `u128` to be
read from. -/
def increment (self : NhpAeadNonce) : NhpAeadNonce :=
  let counter := fromLeBytes (self.bytes.toList ++ List.replicate 4 0)
  -- `wrapping_add`
  let incremented := counter + 1
  ⟨⟨(toLeBytes incremented).take 12, by rw [List.length_take, length_toLeBytes]; rfl⟩⟩

end NhpAeadNonce

end Session

end NhpSba
