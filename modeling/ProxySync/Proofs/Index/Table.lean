import ProxySync.Table
/-!
# Tables as sets

The keys of a table are listed in order, and a table that only has keys is the set of them.

## Main statements

* `Table.mem_keys`, `Table.nodup_keys`: what is listed.
* `Table.ext_contains`: equal sets are equal tables.
-/
namespace ProxySync.Table
variable {κ α : Type} [KeyOrder κ] [DecidableEq κ] {t : Table κ α} {k j : κ} {a : α}

@[simp] theorem contains_empty : (empty : Table κ α).contains k = false := rfl

@[simp] theorem contains_insert :
    (t.insert k a).contains j = true ↔ k = j ∨ t.contains j = true := by
  by_cases h : k = j <;> simp [contains, h]

@[simp] theorem contains_erase :
    (t.erase k).contains j = true ↔ k ≠ j ∧ t.contains j = true := by
  by_cases h : k = j <;> simp [contains, h]

theorem contains_iff : t.contains k = true ↔ ∃ a, t.get? k = some a := Option.isSome_iff_exists

theorem mem_keys : k ∈ t.keys ↔ t.contains k = true := by
  simp only [keys, List.mem_map, contains, get?, Option.isSome_map, List.find?_isSome,
    decide_eq_true_eq]

omit [DecidableEq κ] in
theorem pairwise_keys (t : Table κ α) : t.keys.Pairwise fun j k => KeyOrder.before j k = true :=
  List.pairwise_map.2 t.sorted

omit [DecidableEq κ] in
theorem nodup_keys (t : Table κ α) : t.keys.Nodup := by
  refine t.pairwise_keys.imp ?_
  rintro j _ hbefore rfl
  rw [KeyOrder.irrefl] at hbefore
  cases hbefore

omit [DecidableEq κ] in
theorem length_keys (t : Table κ α) : t.keys.length = t.size := List.length_map _

theorem isEmpty_eq_false : t.isEmpty = false ↔ ∃ k, t.contains k = true := by
  simp only [← mem_keys, keys, List.mem_map, isEmpty]
  cases t.entries <;> simp

theorem isEmpty_eq_true : t.isEmpty = true ↔ ∀ k, t.contains k = false := by
  rw [← Bool.not_eq_false, isEmpty_eq_false]
  simp

/-- Equal sets are equal tables. -/
theorem ext_contains {s t : Table κ Unit} (h : ∀ k, s.contains k = true ↔ t.contains k = true) :
    s = t := by
  refine ext fun k => ?_
  have hk := h k
  simp only [contains] at hk
  cases hs : s.get? k <;> cases ht : t.get? k <;> simp_all

end ProxySync.Table
