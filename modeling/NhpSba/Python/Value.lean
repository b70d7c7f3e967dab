import Mathlib.Data.Rat.Floor
/-!
# Python values, as `json.loads` makes them

The values a Python program holds after decoding JSON, and the operations
on them that programs use to inspect untrusted input: `isinstance`,
comparison with numbers and strings, truth, and `dict.get`.

Numbers follow Python: a `bool` is an `int`, an `int` is unbounded, a
`float` may be infinite or NaN, and an `int` is compared with a `float` by
value.
-/

namespace NhpSba

/-- A byte string. -/
abbrev Bytes := List UInt8

/-- A Python `float`. A finite one is known by the rational it is; the
other three are what `json.loads` makes of `Infinity`, `-Infinity` and
`NaN`. -/
inductive PyFloat
  | finite (q : ℚ)
  | posInf
  | negInf
  | nan
  deriving DecidableEq

namespace PyFloat

/-- `a < b`. Nothing is less than NaN, and NaN is less than nothing. -/
def lt : PyFloat → PyFloat → Bool
  | nan, _ => false
  | _, nan => false
  | finite a, finite b => decide (a < b)
  | finite _, posInf => true
  | finite _, negInf => false
  | negInf, negInf => false
  | negInf, _ => true
  | posInf, _ => false

@[simp] theorem lt_finite {a b : ℚ} : lt (finite a) (finite b) = decide (a < b) := rfl

@[simp] theorem nan_lt (x : PyFloat) : lt nan x = false := by cases x <;> rfl

@[simp] theorem lt_nan (x : PyFloat) : lt x nan = false := by cases x <;> rfl

@[simp] theorem posInf_lt (x : PyFloat) : lt posInf x = false := by cases x <;> rfl

@[simp] theorem lt_posInf (q : ℚ) : lt (finite q) posInf = true := rfl

@[simp] theorem lt_negInf (x : PyFloat) : lt x negInf = false := by cases x <;> rfl

@[simp] theorem negInf_lt (q : ℚ) : lt negInf (finite q) = true := rfl

end PyFloat

/-- `int(t)`, which truncates. -/
def truncate (t : ℚ) : ℤ := if 0 ≤ t then ⌊t⌋ else ⌈t⌉

/-- What a model holds a field from `0.0` to `1.0` to. -/
def UnitRange (q : ℚ) : Prop := 0 ≤ q ∧ q ≤ 1

instance : DecidablePred UnitRange := fun _ => instDecidableAnd

/-- A value decoded from JSON. A `dict` lists its items in order, each key
once. -/
inductive PyValue
  | none
  | bool (b : Bool)
  | int (z : ℤ)
  | float (x : PyFloat)
  | str (s : String)
  | list (xs : List PyValue)
  | dict (items : List (String × PyValue))

/-- A `dict` with string keys. -/
abbrev Dict := List (String × PyValue)

/-- `d.get(key)`: the value, or `None`. -/
def Dict.get (d : Dict) (key : String) : PyValue := (d.lookup key).getD .none

namespace PyValue

/-- `type(v).__name__`. -/
def typeName : PyValue → String
  | .none => "NoneType"
  | .bool _ => "bool"
  | .int _ => "int"
  | .float _ => "float"
  | .str _ => "str"
  | .list _ => "list"
  | .dict _ => "dict"

/-- The number a value is, when `isinstance(v, (int, float))`. A `bool` is
an `int`. -/
def number? : PyValue → Option PyFloat
  | .bool b => some (.finite (if b then 1 else 0))
  | .int z => some (.finite z)
  | .float x => some x
  | _ => Option.none

/-- The string a value is, when `isinstance(v, str)`. -/
def str? : PyValue → Option String
  | .str s => some s
  | _ => Option.none

/-- The dictionary a value is, when `isinstance(v, dict)`. -/
def dict? : PyValue → Option Dict
  | .dict d => some d
  | _ => Option.none

/-- `bool(v)`. -/
def truthy : PyValue → Bool
  | .none => false
  | .bool b => b
  | .int z => z ≠ 0
  | .float (.finite q) => q ≠ 0
  | .float _ => true
  | .str s => s ≠ ""
  | .list xs => !xs.isEmpty
  | .dict d => !d.isEmpty

/-- `v == s`, for a `str`. -/
def eqStr (v : PyValue) (s : String) : Bool := v.str? = some s

/-- `v == z`, for an `int`. -/
def eqInt (v : PyValue) (z : ℤ) : Bool := v.number? = some (.finite z)

/-- `v == q`, for a finite `float`. -/
def eqFloat (v : PyValue) (q : ℚ) : Bool := v.number? = some (.finite q)

@[simp] theorem eqStr_iff {v : PyValue} {s : String} : v.eqStr s = true ↔ v = .str s := by
  cases v <;> simp [eqStr, str?]

theorem str?_eq_some {v : PyValue} {s : String} : v.str? = some s ↔ v = .str s := by
  cases v <;> simp [str?]

theorem dict?_eq_some {v : PyValue} {d : Dict} : v.dict? = some d ↔ v = .dict d := by
  cases v <;> simp [dict?]

end PyValue

end NhpSba
