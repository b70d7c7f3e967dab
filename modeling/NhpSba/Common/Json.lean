import Mathlib.Data.List.Basic
import Mathlib.Data.Nat.Notation
/-!
# JSON documents

A document is what its text says: numbers are literals still, and the
members of an object stand in order, repeated names included. What a
reader makes of either is the reader's. Strings are sequences of
characters, so an escape of half a surrogate pair is in none.
-/

namespace NhpSba

/-- A JSON document. -/
inductive Json
  | null
  | bool (b : Bool)
  /-- A number with neither fraction nor exponent. -/
  | int (negative : Bool) (magnitude : ℕ)
  /-- Any other number, as it is written. -/
  | decimal (literal : String)
  | str (s : String)
  | arr (items : List Json)
  | obj (members : List (String × Json))

namespace Json

/-- The members of a name, in order. -/
def named {α : Type} (members : List (String × α)) (name : String) : List α :=
  (members.filter fun m => decide (m.1 = name)).map Prod.snd

/-- The value of the last member of a name. -/
def last {α : Type} (members : List (String × α)) (name : String) : Option α :=
  (named members name).getLast?

variable {α : Type} {members : List (String × α)} {name : String}

theorem named_concat (m : String × α) :
    named (members ++ [m]) name = named members name ++ if m.1 = name then [m.2] else [] := by
  by_cases h : m.1 = name <;> simp [named, h]

/-- A member that comes after hides those of its name before it. -/
theorem last_concat (m : String × α) :
    last (members ++ [m]) name = if m.1 = name then some m.2 else last members name := by
  rw [last, named_concat]
  by_cases h : m.1 = name
  · simp [h]
  · simp [h, last]

/-- A name that stands once stands for its value. -/
theorem last_of_named {v : α} (h : named members name = [v]) : last members name = some v := by
  rw [last, h]
  rfl

/-- The last member of a name is a member. -/
theorem mem_of_last {v : α} (h : last members name = some v) : (name, v) ∈ members := by
  obtain ⟨m, hm, rfl⟩ := List.mem_map.1 (List.mem_of_getLast? h)
  obtain ⟨hmem, hname⟩ := List.mem_filter.1 hm
  obtain rfl := of_decide_eq_true hname
  exact hmem

end Json

end NhpSba
