import ProxySync.Json.Record
import ProxySync.Proofs.Json.ReadBack
import ProxySync.Table
/-!
# Reading what has been sorted

A server that keeps objects as maps answers with their fields sorted. A reader of such an answer
finds under each name what the object held last under it, and it does not matter to a reader of
texts and numbers how deep what it reads is nested.

## Main definitions

* `Json.heldBy`: what an object holds under each name.
* `Json.answered`: a value as it arrives below so many others.

## Main statements

* `Json.IsValue.sorted`: sorting makes values of values.
* `Json.record?_answered`, `Json.list?_answered`: what arrives of an object and of a list.
-/
namespace ProxySync.Json

/-! ## Sorted fields -/

theorem putField_eq (name : String) (value : Json) (fields : List (String × Json)) :
    putField name value fields = Table.insertEntry name value fields := by
  induction fields with
  | nil => rfl
  | cons f fields ih =>
    rw [putField, Table.insertEntry, ih]
    simp only [KeyOrder.before, decide_eq_true_eq]

theorem sortedFields_eq (fields : List (String × Json)) :
    sortedFields fields = fields.map fun f => (f.1, f.2.sorted) := by
  induction fields with
  | nil => rfl
  | cons f fields ih =>
    obtain ⟨k, v⟩ := f
    rw [sortedFields, ih, List.map_cons]

theorem sortedItems_eq (items : List Json) : sortedItems items = items.map (·.sorted) := by
  induction items with
  | nil => rfl
  | cons j items ih => rw [sortedItems, ih, List.map_cons]

/-- A sorted object is a table of its sorted fields. -/
theorem sorted_obj (fields : List (String × Json)) :
    (Json.obj fields).sorted =
      .obj (Table.ofList (fields.map fun f => (f.1, f.2.sorted))).entries := by
  have hfold (fs : List (String × Json)) (t : Table String Json) :
      fs.foldl (fun acc f => putField f.1 f.2 acc) t.entries =
        (fs.foldl (fun t f => t.insert f.1 f.2) t).entries := by
    induction fs generalizing t with
    | nil => rfl
    | cons f fs ih =>
      rw [List.foldl_cons, List.foldl_cons, putField_eq]
      exact ih (t.insert f.1 f.2)
  rw [sorted, sortedFields_eq]
  exact congrArg Json.obj (hfold _ .empty)

theorem sorted_arr (items : List Json) :
    (Json.arr items).sorted = .arr (items.map (·.sorted)) := by
  rw [sorted, sortedItems_eq]

/-- Of entries with one key the last is found in a table of them. -/
theorem get?_ofList (es : List (String × Json)) (k : String) :
    (Table.ofList es).get? k = (es.reverse.find? (·.1 = k)).map (·.2) := by
  have hfold (t : Table String Json) : (es.foldl (fun t f => t.insert f.1 f.2) t).get? k =
      ((es.reverse.find? (·.1 = k)).map (·.2)).or (t.get? k) := by
    induction es generalizing t with
    | nil => rfl
    | cons e es ih =>
      rw [List.foldl_cons, ih, List.reverse_cons, List.find?_append]
      cases es.reverse.find? (·.1 = k) with
      | some e' => rfl
      | none => by_cases he : e.1 = k <;> simp [he]
  rw [Table.ofList, hfold]
  simp

theorem mem_entries_ofList {es : List (String × Json)} {e : String × Json}
    (h : e ∈ (Table.ofList es).entries) : e ∈ es := by
  have hfold (t : Table String Json) :
      e ∈ (es.foldl (fun t f => t.insert f.1 f.2) t).entries → e ∈ es ∨ e ∈ t.entries := by
    clear h
    induction es generalizing t with
    | nil => exact .inr
    | cons f es ih =>
      intro h
      obtain hmem | hmem := ih _ h
      · exact .inl (List.mem_cons_of_mem _ hmem)
      · exact (Table.mem_insertEntry hmem).imp (fun he : e = f => he ▸ List.mem_cons_self) id
  exact (hfold .empty h).resolve_right (by simp [Table.empty])

/-! ## Values -/

theorem areValues_iff {items : List Json} : AreValues items ↔ ∀ j ∈ items, IsValue j := by
  induction items with
  | nil => simp [AreValues]
  | cons j items ih => simp [AreValues, ih]

theorem haveValues_iff {fields : List (String × Json)} :
    HaveValues fields ↔ ∀ f ∈ fields, IsValue f.2 := by
  induction fields with
  | nil => simp [HaveValues]
  | cons f fields ih =>
    obtain ⟨k, v⟩ := f
    simp [HaveValues, ih]

mutual

/-- Sorting makes values of values. -/
theorem IsValue.sorted (j : Json) (h : IsValue j) : IsValue j.sorted := by
  cases j with
  | arr items =>
    rw [sorted_arr, IsValue, areValues_iff]
    intro j hj
    obtain ⟨i, hi, rfl⟩ := List.mem_map.1 hj
    exact AreValues.sorted items h i hi
  | obj fields =>
    rw [sorted_obj, IsValue, haveValues_iff]
    intro f hf
    obtain ⟨f, hmem, rfl⟩ := List.mem_map.1 (mem_entries_ofList hf)
    exact HaveValues.sorted fields h f hmem
  | null => exact h
  | bool b => exact h
  | int n => exact h
  | decimal digits => exact h
  | str s => exact h
  | illFormed => exact h

theorem AreValues.sorted (items : List Json) (h : AreValues items) :
    ∀ j ∈ items, IsValue j.sorted := by
  match items with
  | [] => simp
  | i :: items =>
    intro j hj
    rcases List.mem_cons.1 hj with hj | hj
    · rw [hj]
      exact IsValue.sorted i h.1
    · exact AreValues.sorted items h.2 j hj

theorem HaveValues.sorted (fields : List (String × Json)) (h : HaveValues fields) :
    ∀ f ∈ fields, IsValue f.2.sorted := by
  match fields with
  | [] => simp
  | (k, v) :: fields =>
    intro f hf
    rcases List.mem_cons.1 hf with hf | hf
    · rw [hf]
      exact IsValue.sorted v h.1
    · exact HaveValues.sorted fields h.2 f hf

end

/-! ## What an object holds -/

/-- The slot of an object for what it may hold. -/
def Slot.ofOption : Option Json → Slot
  | some j => .given j
  | none => .absent

/-- What an object holds under a name: the last field of that name. -/
def heldBy (fields : List (String × Json)) : Record := fun name =>
  .ofOption ((Json.obj fields).field? name)

/-- A record with its values put into another form. -/
def Record.map (g : Json → Json) (r : Record) : Record := fun name =>
  match r name with
  | .given j => .given (g j)
  | .absent => .absent
  | .short => .short

/-- A value as it arrives, with room for so many lists and objects. -/
def answered (room : Nat) (j : Json) : Json := within room j.sorted

theorem countP_entries_le_one (t : Table String Json) (name : String) :
    t.entries.countP (·.1 == name) ≤ 1 := by
  have hnodup : (t.entries.map (·.1)).Nodup := by
    rw [List.Nodup, List.pairwise_map]
    refine t.sorted.imp fun {a b} hab heq => ?_
    rw [heq, KeyOrder.irrefl] at hab
    cases hab
  have hcount := List.nodup_iff_count.1 hnodup name
  rwa [List.count, List.countP_map] at hcount

theorem fieldsWithin_eq (room : Nat) (fields : List (String × Json)) :
    fieldsWithin room fields = fields.map fun f => (f.1, within room f.2) := by
  induction fields with
  | nil => rfl
  | cons f fields ih =>
    obtain ⟨k, v⟩ := f
    rw [fieldsWithin, ih, List.map_cons]

theorem itemsWithin_eq (room : Nat) (items : List Json) :
    itemsWithin room items = items.map (within room) := by
  induction items with
  | nil => rfl
  | cons j items ih => rw [itemsWithin, ih, List.map_cons]

theorem answered_obj (room : Nat) (fields : List (String × Json)) :
    answered (room + 1) (.obj fields) =
      .obj ((Table.ofList (fields.map fun f => (f.1, f.2.sorted))).entries.map fun f =>
        (f.1, within room f.2)) := by
  rw [answered, sorted_obj, within, fieldsWithin_eq]
  rfl

theorem answered_arr (room : Nat) (items : List Json) :
    answered (room + 1) (.arr items) = .arr (items.map (answered room)) := by
  rw [answered, sorted_arr, within, itemsWithin_eq, List.map_map]
  rfl

/-- What a table of sorted fields holds is what the object held last. -/
theorem slotOf_sorted (room : Nat) (fields : List (String × Json)) :
    slotOf ((Table.ofList (fields.map fun f => (f.1, f.2.sorted))).entries.map fun f =>
      (f.1, within room f.2)) = (heldBy fields).map (answered room) := by
  funext name
  have hlast := get?_ofList (fields.map fun f => (f.1, f.2.sorted)) name
  rw [Table.get?, ← List.map_reverse, List.find?_map] at hlast
  rw [slotOf, List.find?_map, Record.map, heldBy, field?]
  simp only [Function.comp_def, Option.map_map, beq_eq_decide] at hlast ⊢
  revert hlast
  generalize (Table.ofList (fields.map fun f => (f.1, f.2.sorted))).entries.find?
    (fun f => decide (f.1 = name)) = found
  generalize fields.reverse.find? (fun f => decide (f.1 = name)) = last
  intro hlast
  cases last with
  | none =>
    obtain rfl := Option.map_eq_none_iff.1 hlast
    rfl
  | some f =>
    obtain ⟨e, rfl, he⟩ := Option.map_eq_some_iff.1 hlast
    exact congrArg (fun j => Slot.given (within room j)) he

/-- What arrives of an object is a record of what it holds. -/
theorem record?_answered (names : List String) (room : Nat) (fields : List (String × Json)) :
    (answered (room + 1) (.obj fields)).record? names =
      some ((heldBy fields).map (answered room)) := by
  rw [answered_obj, record?, slotOf_sorted]
  have honce (name : String) := countP_entries_le_one
    (Table.ofList (fields.map fun f => (f.1, f.2.sorted))) name
  simp [List.countP_map, Function.comp_def, honce]

/-- What arrives of a list is read item by item. -/
theorem list?_answered {α : Type} (read : Json → Option α) (room : Nat) (items : List Json) :
    (answered (room + 1) (.arr items)).list? read =
      items.mapM (fun j => read (answered room j)) := by
  rw [answered_arr, list?, List.mapM_map]
  rfl

/-! ## Fields of what arrives -/

section
variable {α : Type} {r : Record} {name : String} {read : Json → Option α} {g : Json → Json}

/-- What arrives of a list or an object is one, or nothing that can be held; all else arrives as it
is. -/
theorem answered_cases (room : Nat) (j : Json) :
    (∃ items, j = .arr items ∧ (answered room j = .illFormed ∨ ∃ is, answered room j = .arr is)) ∨
    (∃ fields, j = .obj fields ∧
      (answered room j = .illFormed ∨ ∃ fs, answered room j = .obj fs)) ∨ answered room j = j := by
  cases j with
  | arr items =>
    rw [answered, sorted_arr, within, ifRoom]
    split
    · exact .inl ⟨items, rfl, .inl rfl⟩
    · exact .inl ⟨items, rfl, .inr ⟨_, rfl⟩⟩
  | obj fields =>
    rw [answered, sorted_obj, within, ifRoom]
    split
    · exact .inr (.inl ⟨fields, rfl, .inl rfl⟩)
    · exact .inr (.inl ⟨fields, rfl, .inr ⟨_, rfl⟩⟩)
  | null => exact .inr (.inr rfl)
  | bool b => exact .inr (.inr rfl)
  | int n => exact .inr (.inr rfl)
  | decimal digits => exact .inr (.inr rfl)
  | str s => exact .inr (.inr rfl)
  | illFormed => exact .inr (.inr rfl)

theorem answered_eq_null {room : Nat} {j : Json} : answered room j = .null ↔ j = .null := by
  obtain ⟨_, rfl, h | ⟨_, h⟩⟩ | ⟨_, rfl, h | ⟨_, h⟩⟩ | h := answered_cases room j <;> simp [h]

@[simp] theorem Record.required_map :
    (r.map g).required name read = r.required name fun j => read (g j) := by
  rw [required, required, Record.map]
  cases r name <;> rfl

@[simp] theorem Record.defaulted_map {dflt : α} :
    (r.map g).defaulted name dflt read = r.defaulted name dflt fun j => read (g j) := by
  rw [defaulted, defaulted, Record.map]
  cases r name <;> rfl

theorem Record.optional_of_given {j : Json} (hr : r name = .given j) (hj : j ≠ .null) :
    r.optional name read = (read j).map some := by
  rw [optional.eq_def, hr]
  cases j with
  | null => exact absurd rfl hj
  | _ => rfl

theorem Record.optional_map (hg : ∀ j, g j = .null ↔ j = .null) :
    (r.map g).optional name read = r.optional name fun j => read (g j) := by
  cases hr : r name with
  | given j =>
    have hmap : r.map g name = .given (g j) := by rw [Record.map, hr]
    by_cases hj : j = .null
    · rw [hj] at hr
      rw [hj, (hg .null).2 rfl] at hmap
      rw [optional, optional, hmap, hr]
    · rw [optional_of_given hr hj, optional_of_given hmap fun h => hj ((hg j).1 h)]
  | absent => rw [optional.eq_def, optional.eq_def, Record.map, hr]
  | short => rw [optional.eq_def, optional.eq_def, Record.map, hr]

@[simp] theorem Record.optional_map_answered (room : Nat) :
    (r.map (answered room)).optional name read =
      r.optional name fun j => read (answered room j) :=
  optional_map fun _ => answered_eq_null

/-- A text arrives as it is. -/
@[simp] theorem text?_answered (room : Nat) (j : Json) : (answered room j).text? = j.text? := by
  obtain ⟨_, rfl, h | ⟨_, h⟩⟩ | ⟨_, rfl, h | ⟨_, h⟩⟩ | h := answered_cases room j <;>
    rw [h] <;> rfl

@[simp] theorem int64?_answered (room : Nat) (j : Json) : (answered room j).int64? = j.int64? := by
  obtain ⟨_, rfl, h | ⟨_, h⟩⟩ | ⟨_, rfl, h | ⟨_, h⟩⟩ | h := answered_cases room j <;>
    rw [h] <;> rfl

/-! ## Objects as they are written -/

/-- What is written of named values is found under their names. -/
theorem field?_ofFields {fields : List (String × Option Json)} (h : (fields.map (·.1)).Nodup)
    (name : String) :
    (ofFields fields).field? name = (fields.find? (·.1 == name)).bind (·.2) := by
  rw [ofFields, field?]
  induction fields with
  | nil => rfl
  | cons f fields ih =>
    obtain ⟨hf, hfields⟩ := List.nodup_cons.1 h
    have hrest := ih hfields
    obtain ⟨k, v⟩ := f
    have hno (hk : k = name) : fields.find? (·.1 == name) = none := by
      refine List.find?_eq_none.2 fun f hf' heq => hf (List.mem_map.2 ⟨f, hf', ?_⟩)
      exact (eq_of_beq heq).trans hk.symm
    have hfind : ((k, v) :: fields).find? (·.1 == name) =
        if k = name then some (k, v) else fields.find? (·.1 == name) := by
      rw [List.find?_cons]
      by_cases hk : k = name
      · simp [hk]
      · rw [if_neg hk, beq_false_of_ne hk]
    rw [hfind]
    cases v with
    | none =>
      rw [List.filterMap_cons_none rfl, hrest]
      split
      · rename_i hk
        rw [hno hk]
        rfl
      · rfl
    | some j =>
      have hcons : ((k, some j) :: fields).filterMap (fun f => f.2.map (f.1, ·)) =
          (k, j) :: fields.filterMap (fun f => f.2.map (f.1, ·)) := rfl
      rw [hcons, List.reverse_cons, List.find?_append, Option.map_or, hrest]
      split
      · rename_i hk
        simp [hno hk, hk]
      · rename_i hk
        simp [hk]

theorem heldBy_ofFields {fields : List (String × Option Json)} (h : (fields.map (·.1)).Nodup)
    (name : String) : heldBy (fields.filterMap fun f => f.2.map (f.1, ·)) name =
      .ofOption ((fields.find? (·.1 == name)).bind (·.2)) :=
  congrArg Slot.ofOption (field?_ofFields h name)

theorem isValue_ofFields {fields : List (String × Option Json)} :
    IsValue (ofFields fields) ↔ ∀ f ∈ fields, ∀ j, f.2 = some j → IsValue j := by
  rw [ofFields, IsValue, haveValues_iff]
  constructor
  · intro h f hf j hj
    exact h (f.1, j) (List.mem_filterMap.2 ⟨f, hf, by rw [hj]; rfl⟩)
  · intro h f hf
    obtain ⟨f', hf', heq⟩ := List.mem_filterMap.1 hf
    obtain ⟨j, hj, rfl⟩ := Option.map_eq_some_iff.1 heq
    exact h f' hf' j hj

@[simp] theorem isValue_ofInt64 (n : Int64) : IsValue (ofInt64 n) := by
  have hbounds := toInt_bounds n
  simp only [ofInt64, IsValue, fitsInt, Bool.and_eq_true, decide_eq_true_eq]
  omega

end

end ProxySync.Json
