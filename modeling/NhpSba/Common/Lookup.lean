import Mathlib.Data.List.AList
import Mathlib.Data.Nat.Notation
import Mathlib.Data.Set.Card
import Mathlib.Logic.Function.Basic
/-!
# Maps, by what they find

A map is read through `lookup`: inserting and erasing update that function
at one key (`lookup_insert_update`, `lookup_erase_update`).
`HashMap::retain` keeps the entries whose value passes a test. A map from
which entries were dropped finds what it found before, if that passes the
test (`lookup_retain`), it has kept every entry exactly when every entry
passes it (`length_retain_iff`), and a map's entries are as many as the
keys it finds something under (`ncard_lookup`).
-/

namespace NhpSba

variable {α β : Type} [DecidableEq α]

theorem lookup_insert_update (m : AList fun _ : α => β) (a x : α) (b : β) :
    (m.insert a b).lookup x = Function.update (fun y => m.lookup y) a (some b) x := by
  by_cases h : x = a
  · subst h
    rw [AList.lookup_insert, Function.update_self]
  · rw [AList.lookup_insert_ne h, Function.update_of_ne h]

theorem lookup_erase_update (m : AList fun _ : α => β) (a x : α) :
    (m.erase a).lookup x = Function.update (fun y => m.lookup y) a none x := by
  by_cases h : x = a
  · subst h
    rw [AList.lookup_erase, Function.update_self]
  · rw [AList.lookup_erase_ne h, Function.update_of_ne h]

/-- `map.retain(|_, v| keep(v))`. -/
def retain (keep : β → Bool) (m : AList fun _ : α => β) : AList fun _ : α => β :=
  ⟨m.entries.filter fun e => keep e.2, m.nodupKeys.sublist List.filter_sublist⟩

variable {keep : β → Bool} {m : AList fun _ : α => β} {a : α} {b : β}

theorem lookup_retain_eq_some :
    (retain keep m).lookup a = some b ↔ m.lookup a = some b ∧ keep b = true := by
  have hmem : ∀ m' : AList fun _ : α => β, m'.lookup a = some b ↔ ⟨a, b⟩ ∈ m'.entries :=
    fun m' => AList.mem_lookup_iff
  rw [hmem, hmem, retain, List.mem_filter]

/-- **What is found among what was kept.** -/
theorem lookup_retain : (retain keep m).lookup a = (m.lookup a).filter keep := by
  apply Option.ext
  intro b
  rw [lookup_retain_eq_some, Option.filter_eq_some_iff]

/-- **Nothing was dropped** exactly when every value passes the test. -/
theorem length_retain_iff :
    (retain keep m).entries.length = m.entries.length ↔
      ∀ a b, m.lookup a = some b → keep b = true := by
  rw [retain, List.length_filter_eq_length_iff]
  constructor
  · intro h a b hab
    exact h ⟨a, b⟩ (AList.mem_lookup_iff.1 hab)
  · intro h e he
    exact h e.1 e.2 (AList.mem_lookup_iff.2 he)

/-- A map has as many entries as there are keys it finds something under. -/
theorem ncard_lookup (m : AList fun _ : α => β) :
    Set.ncard {a | ∃ b, m.lookup a = some b} = m.entries.length := by
  have hkeys : {a | ∃ b, m.lookup a = some b} = (m.keys.toFinset : Set α) := by
    ext a
    rw [Set.mem_ofPred_eq, List.coe_toFinset, Set.mem_ofPred_eq, ← Option.isSome_iff_exists,
      AList.lookup_isSome, AList.mem_keys]
  rw [hkeys, Set.ncard_coe_finset, List.toFinset_card_of_nodup m.keys_nodup, AList.keys,
    List.keys, List.length_map]

end NhpSba
