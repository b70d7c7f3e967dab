import NhpSba.Common.Double
import NhpSba.Common.Json
import Mathlib.Data.List.AList
/-!
# Deserialisation by `serde_json`

What a derived `Deserialize` makes of a document. A struct is an object in
which each field stands once and has a value of the field's type; members
it does not declare are skipped. A map takes every member, the last of a
name for good. An unsigned integer is an integer literal without a sign.
-/

namespace NhpSba

namespace Rust

/-- A finite `f64`, as the rational it is. -/
abbrev F64 := ℚ

/-- What a program takes from `serde_json`. -/
structure Serde where
  /-- The document that a text is, or the error of its reader. -/
  document : List UInt8 → Except String Json
  /-- The `f64` of a number literal, where there is one. -/
  parseF64 : String → Option F64
  /-- The error for a document that is not of the type asked for. -/
  mismatch : Json → String
  /-- `x.to_string()`. -/
  display : F64 → String

/-- `n as f64`: the nearest of 53 significant bits, ties to even. -/
def asF64 (n : ℕ) : F64 := Double.round n

namespace Serde

/-- `String`. -/
def string? : Json → Option String
  | .str s => some s
  | _ => none

/-- An unsigned integer of a width. -/
def unsigned? (bits : ℕ) : Json → Option ℕ
  | .int false n => if n < 2 ^ bits then some n else none
  | _ => none

/-- `u32`. -/
def u32? (v : Json) : Option UInt32 := (unsigned? 32 v).map UInt32.ofNat

/-- `u64`. -/
def u64? (v : Json) : Option UInt64 := (unsigned? 64 v).map UInt64.ofNat

/-- `f64`. An integer literal is one where it fits 64 bits; a zero with a
sign does not. -/
def f64? (D : Serde) : Json → Option F64
  | .int false n => if n < 2 ^ 64 then some (asF64 n) else D.parseF64 (toString n)
  | .int true n =>
    if 0 < n ∧ n ≤ 2 ^ 63 then some (-asF64 n) else D.parseF64 ("-" ++ toString n)
  | .decimal literal => D.parseF64 literal
  | _ => none

/-- The members of an object. -/
def members? : Json → Option (List (String × Json))
  | .obj members => some members
  | _ => none

/-- A field of a struct, which may not stand twice. -/
def field? {α : Type} (members : List (String × Json)) (name : String)
    (deserialize : Json → Option α) : Option α :=
  match Json.named members name with
  | [v] => deserialize v
  | _ => none

/-- `HashMap<String, V>`: each member is inserted over those before it. -/
def hashMap? {α : Type} (deserialize : Json → Option α) (v : Json) :
    Option (AList fun _ : String => α) := do
  let members ← members? v
  members.foldlM (fun map m => (deserialize m.2).map fun a => map.insert m.1 a) ∅

end Serde

end Rust

end NhpSba
