import ProxySync.Key
/-!
# Sorted tables

A finite map whose entries are kept in the strict order of their keys. There is one table for
every finite map, so equal contents are equal tables, and listing a table lists its keys in order
and without repetition.

* `Table.insert`, `Table.erase`, `Table.get?`: the map operations.
* `Table.get?_insert`, `Table.get?_erase`: what they do to a look-up.
* `Table.ext`: tables that answer every look-up alike are equal.
-/
namespace ProxySync

/-- A decidable strict linear order on keys. -/
class KeyOrder (κ : Type) where
  before : κ → κ → Bool
  irrefl : ∀ a, before a a = false
  trans : ∀ {a b c}, before a b = true → before b c = true → before a c = true
  total : ∀ {a b}, before a b = false → before b a = false → a = b

/-- Texts by their code points. -/
instance : KeyOrder String where
  before a b := decide (a < b)
  irrefl a := decide_eq_false (String.lt_irrefl a)
  trans h₁ h₂ := by
    simp only [decide_eq_true_eq] at *
    exact String.lt_trans h₁ h₂
  total h₁ h₂ := by
    simp only [decide_eq_false_iff_not, String.not_lt] at *
    exact String.le_antisymm h₂ h₁

/-- Pairs by their first part, then by their second. -/
instance {κ μ : Type} [KeyOrder κ] [DecidableEq κ] [KeyOrder μ] : KeyOrder (κ × μ) where
  before a b := KeyOrder.before a.1 b.1 || (decide (a.1 = b.1) && KeyOrder.before a.2 b.2)
  irrefl a := by simp [KeyOrder.irrefl]
  trans {a b c} h₁ h₂ := by
    simp only [Bool.or_eq_true, Bool.and_eq_true, decide_eq_true_eq] at *
    rcases h₁ with h₁ | ⟨e₁, h₁⟩ <;> rcases h₂ with h₂ | ⟨e₂, h₂⟩
    · exact .inl (KeyOrder.trans h₁ h₂)
    · exact .inl (e₂ ▸ h₁)
    · exact .inl (e₁ ▸ h₂)
    · exact .inr ⟨e₁.trans e₂, KeyOrder.trans h₁ h₂⟩
  total {a b} h₁ h₂ := by
    simp only [Bool.or_eq_false_iff, Bool.and_eq_false_imp, decide_eq_true_eq] at *
    have hfst : a.1 = b.1 := KeyOrder.total h₁.1 h₂.1
    exact Prod.ext hfst (KeyOrder.total (h₁.2 hfst) (h₂.2 hfst.symm))

/-- Keys by namespace, then by name. -/
instance : KeyOrder Key where
  before a b := KeyOrder.before (a.ns, a.name) (b.ns, b.name)
  irrefl a := KeyOrder.irrefl (a.ns, a.name)
  trans h₁ h₂ := KeyOrder.trans h₁ h₂
  total {a b} h₁ h₂ := by
    have h := KeyOrder.total h₁ h₂
    cases a; cases b; simp_all

/-- A finite map with its entries in the order of their keys. -/
structure Table (κ α : Type) [KeyOrder κ] where
  entries : List (κ × α)
  sorted : entries.Pairwise fun a b => KeyOrder.before a.1 b.1 = true

namespace Table
variable {κ α : Type} [KeyOrder κ] [DecidableEq κ]

omit [DecidableEq κ] in
theorem entries_injective {s t : Table κ α} (h : s.entries = t.entries) : s = t := by
  cases s; cases t; simp_all

/-- The table without entries. -/
def empty : Table κ α := { entries := [], sorted := .nil }

instance : Inhabited (Table κ α) := ⟨empty⟩

/-- Puts an entry into sorted entries, in place of one with the same key. -/
def insertEntry (k : κ) (a : α) : List (κ × α) → List (κ × α)
  | [] => [(k, a)]
  | e :: es =>
    if KeyOrder.before k e.1 then (k, a) :: e :: es
    else if k = e.1 then (k, a) :: es
    else e :: insertEntry k a es

theorem mem_insertEntry {k : κ} {a : α} {e : κ × α} {es : List (κ × α)}
    (h : e ∈ insertEntry k a es) : e = (k, a) ∨ e ∈ es := by
  induction es with
  | nil => simpa [insertEntry] using h
  | cons x xs ih =>
    simp only [insertEntry] at h
    split at h
    · simpa using h
    · split at h
      · rcases List.mem_cons.1 h with h | h
        · exact .inl h
        · exact .inr (List.mem_cons_of_mem _ h)
      · rcases List.mem_cons.1 h with h | h
        · exact .inr (h ▸ List.mem_cons_self)
        · exact (ih h).imp id (List.mem_cons_of_mem _)

theorem sorted_insertEntry {k : κ} {a : α} {es : List (κ × α)}
    (h : es.Pairwise fun a b => KeyOrder.before a.1 b.1 = true) :
    (insertEntry k a es).Pairwise fun a b => KeyOrder.before a.1 b.1 = true := by
  induction es with
  | nil => simp [insertEntry]
  | cons x xs ih =>
    have ⟨hx, hxs⟩ := List.pairwise_cons.1 h
    simp only [insertEntry]
    split
    · rename_i hk
      refine List.pairwise_cons.2 ⟨fun e he => ?_, h⟩
      rcases List.mem_cons.1 he with rfl | he
      · exact hk
      · exact KeyOrder.trans hk (hx e he)
    · split
      · rename_i hk
        exact List.pairwise_cons.2 ⟨fun e he => hk ▸ hx e he, hxs⟩
      · rename_i hk hne
        refine List.pairwise_cons.2 ⟨fun e he => ?_, ih hxs⟩
        rcases mem_insertEntry he with rfl | he
        · cases hb : KeyOrder.before x.1 k with
          | true => rfl
          | false => exact absurd (KeyOrder.total (by simpa using hk) hb) hne
        · exact hx e he

/-- Puts a value under a key. -/
def insert (k : κ) (a : α) (t : Table κ α) : Table κ α :=
  { entries := insertEntry k a t.entries, sorted := sorted_insertEntry t.sorted }

/-- Drops a key. -/
def erase (k : κ) (t : Table κ α) : Table κ α :=
  { entries := t.entries.filter (·.1 ≠ k), sorted := t.sorted.filter _ }

/-- The value under a key. -/
def get? (t : Table κ α) (k : κ) : Option α := (t.entries.find? (·.1 = k)).map (·.2)

/-- Whether a key has a value. -/
def contains (t : Table κ α) (k : κ) : Bool := (t.get? k).isSome

/-- The keys, in order. -/
def keys (t : Table κ α) : List κ := t.entries.map (·.1)

/-- The values, in the order of their keys. -/
def values (t : Table κ α) : List α := t.entries.map (·.2)

/-- The number of entries. -/
def size (t : Table κ α) : Nat := t.entries.length

/-- Whether there is no entry. -/
def isEmpty (t : Table κ α) : Bool := t.entries.isEmpty

/-- The table of a list of entries; the last of one key wins. -/
def ofList (es : List (κ × α)) : Table κ α := es.foldl (fun t e => t.insert e.1 e.2) empty

@[simp] theorem get?_empty (k : κ) : (empty : Table κ α).get? k = none := rfl

theorem find?_insertEntry (k j : κ) (a : α) (es : List (κ × α)) :
    ((insertEntry k a es).find? (·.1 = j)).map (·.2) =
      if k = j then some a else (es.find? (·.1 = j)).map (·.2) := by
  induction es with
  | nil => by_cases h : k = j <;> simp [insertEntry, h]
  | cons x xs ih =>
    simp only [insertEntry]
    split
    · by_cases h : k = j <;> simp [h]
    · split
      · rename_i hk
        by_cases h : k = j
        · simp [h]
        · simp [h, ← hk]
      · rename_i hk hne
        by_cases hx : x.1 = j
        · have : ¬ k = j := fun h => hne (h.trans hx.symm)
          simp [hx, this]
        · simp only [List.find?_cons, hx, decide_false, ih]

@[simp] theorem get?_insert (k j : κ) (a : α) (t : Table κ α) :
    (t.insert k a).get? j = if k = j then some a else t.get? j :=
  find?_insertEntry k j a t.entries

omit [KeyOrder κ] in
theorem find?_filter_ne (k j : κ) (es : List (κ × α)) :
    (es.filter (·.1 ≠ k)).find? (·.1 = j) = if k = j then none else es.find? (·.1 = j) := by
  induction es with
  | nil => simp
  | cons e es ih =>
    by_cases hk : e.1 = k
    · by_cases h : k = j
      · simp [hk, h]
      · have : ¬ e.1 = j := fun hj => h (hk.symm.trans hj)
        simpa [hk, h, this] using ih
    · by_cases h : k = j
      · have : ¬ e.1 = j := fun hj => hk (hj.trans h.symm)
        simp [h, this]
      · by_cases hj : e.1 = j
        · simp [hj, h, Ne.symm h]
        · simpa [hk, h, hj] using ih

@[simp] theorem get?_erase (k j : κ) (t : Table κ α) :
    (t.erase k).get? j = if k = j then none else t.get? j := by
  simp only [get?, erase, find?_filter_ne]
  split <;> rfl

omit [DecidableEq κ] in
theorem find?_none_of_before [DecidableEq κ] {k : κ} {es : List (κ × α)}
    (h : ∀ e ∈ es, KeyOrder.before k e.1 = true) : es.find? (·.1 = k) = none := by
  rw [List.find?_eq_none]
  intro e he hk
  have hlt := h e he
  rw [of_decide_eq_true hk, KeyOrder.irrefl] at hlt
  exact Bool.false_ne_true hlt

theorem head_or_before {k : κ} {a : α} {y : κ × α} {ys : List (κ × α)}
    (hy : ∀ e ∈ ys, KeyOrder.before y.1 e.1 = true)
    (h : ((y :: ys).find? (·.1 = k)).map (·.2) = some a) :
    y.1 = k ∨ KeyOrder.before y.1 k = true := by
  obtain ⟨e, he, -⟩ := Option.map_eq_some_iff.1 h
  have hk : e.1 = k := by simpa using List.find?_some he
  rcases List.mem_cons.1 (List.mem_of_find?_eq_some he) with rfl | hmem
  · exact .inl hk
  · exact .inr (hk ▸ hy e hmem)

theorem eq_of_find? {xs ys : List (κ × α)}
    (hx : xs.Pairwise fun a b => KeyOrder.before a.1 b.1 = true)
    (hy : ys.Pairwise fun a b => KeyOrder.before a.1 b.1 = true)
    (h : ∀ k, (xs.find? (·.1 = k)).map (·.2) = (ys.find? (·.1 = k)).map (·.2)) : xs = ys := by
  induction xs generalizing ys with
  | nil =>
    cases ys with
    | nil => rfl
    | cons y ys => simpa using h y.1
  | cons x xs ih =>
    cases ys with
    | nil => simpa using h x.1
    | cons y ys =>
      have ⟨hx, hxs⟩ := List.pairwise_cons.1 hx
      have ⟨hy, hys⟩ := List.pairwise_cons.1 hy
      have hkey : x.1 = y.1 := by
        have h₁ : y.1 = x.1 ∨ KeyOrder.before y.1 x.1 = true :=
          head_or_before (a := x.2) hy (by rw [← h]; simp)
        have h₂ : x.1 = y.1 ∨ KeyOrder.before x.1 y.1 = true :=
          head_or_before (a := y.2) hx (by rw [h]; simp)
        rcases h₁ with h₁ | h₁
        · exact h₁.symm
        · rcases h₂ with h₂ | h₂
          · exact h₂
          · have := KeyOrder.trans h₁ h₂
            rw [KeyOrder.irrefl] at this
            exact absurd this Bool.false_ne_true
      have hval : x.2 = y.2 := by simpa [hkey] using h x.1
      have htail : xs = ys := ih hxs hys fun k => by
        by_cases hk : x.1 = k
        · rw [find?_none_of_before (fun e he => hk ▸ hx e he),
            find?_none_of_before (fun e he => hk ▸ hkey ▸ hy e he)]
        · have := h k
          simpa [hk, hkey ▸ hk] using this
      rw [Prod.ext hkey hval, htail]

/-- Tables that answer every look-up alike are equal. -/
theorem ext {s t : Table κ α} (h : ∀ k, s.get? k = t.get? k) : s = t :=
  entries_injective (eq_of_find? s.sorted t.sorted h)

end Table
end ProxySync
