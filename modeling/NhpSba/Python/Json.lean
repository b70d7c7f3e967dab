import NhpSba.Common.Json
import NhpSba.Python.Value
import Mathlib.Data.List.Induction
/-!
# What `json.loads` makes of a document

An integer literal is an `int` of any size, another number a `float`, and
an object a `dict`, where a name takes the place of its first member and
the value of its last.
-/

namespace NhpSba

/-- `d[key] = v`. -/
def Dict.setItem : Dict → String → PyValue → Dict
  | [], key, v => [(key, v)]
  | item :: rest, key, v =>
    if item.1 = key then (key, v) :: rest else item :: Dict.setItem rest key v

/-- A `dict` of a list of items, set one after the other. -/
def Dict.ofItems (items : List (String × PyValue)) : Dict :=
  items.foldl (fun d item => Dict.setItem d item.1 item.2) []

namespace Json

mutual

/-- The value of a document. `float` reads a number that is no integer. -/
def toPy (float : String → PyFloat) : Json → PyValue
  | .null => .none
  | .bool b => .bool b
  | .int negative magnitude => .int (if negative then -(magnitude : ℤ) else magnitude)
  | .decimal literal => .float (float literal)
  | .str s => .str s
  | .arr items => .list (toPyItems float items)
  | .obj members => .dict (Dict.ofItems (toPyMembers float members))

def toPyItems (float : String → PyFloat) : List Json → List PyValue
  | [] => []
  | v :: items => toPy float v :: toPyItems float items

def toPyMembers (float : String → PyFloat) : List (String × Json) → List (String × PyValue)
  | [] => []
  | (name, v) :: members => (name, toPy float v) :: toPyMembers float members

end

end Json

namespace Dict

theorem lookup_cons (item : String × PyValue) (d : Dict) (name : String) :
    List.lookup name (item :: d) = if item.1 = name then some item.2 else d.lookup name := by
  obtain ⟨key, v⟩ := item
  rw [List.lookup_cons]
  by_cases h : key = name
  · subst h
    simp
  · have hne : (name == key) = false := beq_false_of_ne fun heq => h heq.symm
    rw [hne, if_neg h]

/-- What is set is found, and nothing else has changed. -/
theorem lookup_setItem (d : Dict) (key : String) (v : PyValue) (name : String) :
    (setItem d key v).lookup name = if key = name then some v else d.lookup name := by
  induction d with
  | nil => rw [setItem, lookup_cons]
  | cons item rest ih =>
    rw [setItem]
    by_cases hitem : item.1 = key
    · rw [if_pos hitem, lookup_cons, lookup_cons, hitem]
      by_cases hkey : key = name
      · rw [if_pos hkey, if_pos hkey]
      · rw [if_neg hkey, if_neg hkey, if_neg hkey]
    · rw [if_neg hitem, lookup_cons, lookup_cons, ih]
      -- the item that is passed over has another key
      by_cases hkey : key = name
      · have hne : item.1 ≠ name := fun heq => hitem (heq.trans hkey.symm)
        rw [if_neg hne, if_pos hkey, if_pos hkey]
      · rw [if_neg hkey, if_neg hkey]

/-- **The last item of a name is the one a `dict` keeps.** -/
theorem lookup_ofItems (items : List (String × PyValue)) (name : String) :
    (ofItems items).lookup name = Json.last items name := by
  induction items using List.reverseRecOn with
  | nil => rfl
  | append_singleton items item ih =>
    have hset : ofItems (items ++ [item]) = setItem (ofItems items) item.1 item.2 := by
      rw [ofItems, List.foldl_append]
      rfl
    rw [hset, lookup_setItem, ih, Json.last_concat]

end Dict

namespace Json

variable {float : String → PyFloat}

theorem toPyMembers_eq_map (members : List (String × Json)) :
    toPyMembers float members = members.map fun m => (m.1, toPy float m.2) := by
  induction members with
  | nil => rfl
  | cons m members ih =>
    rw [toPyMembers, ih]
    rfl

theorem last_toPyMembers (members : List (String × Json)) (name : String) :
    last (toPyMembers float members) name = (last members name).map (toPy float) := by
  rw [toPyMembers_eq_map]
  induction members using List.reverseRecOn with
  | nil => rfl
  | append_singleton members m ih =>
    rw [List.map_append, List.map_singleton, last_concat, last_concat, ih]
    by_cases h : m.1 = name
    · rw [if_pos h, if_pos h]
      rfl
    · rw [if_neg h, if_neg h]

/-- **A field of an object** is the value of its last member. -/
theorem lookup_toPy_obj (members : List (String × Json)) (name : String) :
    (Dict.ofItems (toPyMembers float members)).lookup name =
      (last members name).map (toPy float) := by
  rw [Dict.lookup_ofItems, last_toPyMembers]

/-- Only an object is a `dict`. -/
theorem toPy_eq_dict {v : Json} {d : Dict} (h : toPy float v = .dict d) :
    ∃ members, v = .obj members ∧ d = Dict.ofItems (toPyMembers float members) := by
  cases v with
  | obj members => exact ⟨members, rfl, (PyValue.dict.inj h).symm⟩
  | _ => simp [toPy] at h

/-- Only a string is a `str`, and its characters are the same. -/
theorem toPy_eq_str {v : Json} {s : String} (h : toPy float v = .str s) : v = .str s := by
  cases v with
  | str t => exact congrArg Json.str (PyValue.str.inj h)
  | _ => simp [toPy] at h

end Json

end NhpSba
