import ProxySync.Proofs.Json.Sorted
/-!
# Values as they arrive

A value arrives as it was written or with its fields sorted, and what is nested too deeply is not
held. To a reader of records this makes no difference: it finds the texts and the numbers that were
written, the items of a list in their order, and under each name of an object what was put there.

## Main definitions

* `Json.Arrival`: a way in which values arrive.
* `Json.written`: what a record holds that was written of named values.

## Main statements

* `Json.arrival_within`, `Json.arrival_answered`: the two ways.
* `Json.Arrival.record`: what arrives of named values.
* `Json.Record.optional_written`, `Json.Arrival.list`: parts that are read back make a whole that
  is.
-/
namespace ProxySync.Json

/-- A way in which values arrive, with room for so many lists and objects. -/
structure Arrival (arrive : Nat → Json → Json) : Prop where
  str : ∀ room s, arrive room (.str s) = .str s
  int : ∀ room n, arrive room (.int n) = .int n
  null : ∀ room, arrive room .null = .null
  arr : ∀ room items, arrive (room + 1) (.arr items) = .arr (items.map (arrive room))
  obj : ∀ room fields names, (fields.map (·.1)).Nodup →
    (arrive (room + 1) (.obj fields)).record? names = some ((heldBy fields).map (arrive room))

/-- Where names are distinct, the last field of a name is the only one. -/
theorem heldBy_eq_slotOf {fields : List (String × Json)} (h : (fields.map (·.1)).Nodup) :
    heldBy fields = slotOf fields := by
  have hfields : ofFields (fields.map fun f => (f.1, some f.2)) = .obj fields := by
    rw [ofFields, List.filterMap_map]
    exact congrArg obj List.filterMap_some
  funext name
  have hnames : ((fields.map fun f => (f.1, some f.2)).map (·.1)).Nodup := by
    simpa [Function.comp_def] using h
  have hfind := field?_ofFields hnames name
  rw [hfields, List.find?_map] at hfind
  rw [heldBy, hfind, slotOf]
  simp only [Function.comp_def]
  cases fields.find? (·.1 == name) <;> rfl

theorem slotOf_map (g : Json → Json) (fields : List (String × Json)) :
    slotOf (fields.map fun f => (f.1, g f.2)) = Record.map g (slotOf fields) := by
  funext name
  rw [slotOf, List.find?_map, Record.map, slotOf]
  simp only [Function.comp_def]
  cases fields.find? (·.1 == name) <;> rfl

/-- As they were written. -/
theorem arrival_within : Arrival within where
  str _ _ := by simp [within]
  int _ _ := by simp [within]
  null _ := by simp [within]
  arr room items := by
    rw [within, itemsWithin_eq]
    rfl
  obj room fields names h := by
    have honce (name : String) : fields.countP (·.1 == name) ≤ 1 := by
      have hcount := List.nodup_iff_count.1 h name
      rwa [List.count, List.countP_map] at hcount
    rw [within, fieldsWithin_eq, heldBy_eq_slotOf h, ← slotOf_map]
    simp [ifRoom, record?, List.countP_map, Function.comp_def, honce]

/-- With their fields sorted. -/
theorem arrival_answered : Arrival answered where
  str _ _ := by simp [answered, sorted, within]
  int _ _ := by simp [answered, sorted, within]
  null _ := by simp [answered, sorted, within]
  arr := answered_arr
  obj room fields names _ := record?_answered names room fields

/-- What a record holds that was written of named values. -/
def written (fields : List (String × Option Json)) : Record := fun name =>
  .ofOption ((fields.find? (·.1 == name)).bind (·.2))

namespace Arrival
variable {arrive : Nat → Json → Json} (h : Arrival arrive) {α : Type}
include h

/-- What arrives of named values is found under their names. -/
theorem record {fields : List (String × Option Json)} (hnames : (fields.map (·.1)).Nodup)
    (room : Nat) (names : List String) :
    (arrive (room + 1) (ofFields fields)).record? names =
      some ((written fields).map (arrive room)) := by
  have hsub : ((fields.filterMap fun f => f.2.map (f.1, ·)).map (·.1)).Sublist
      (fields.map (·.1)) := by
    clear hnames
    induction fields with
    | nil => exact .slnil
    | cons f fields ih =>
      obtain ⟨k, _ | v⟩ := f
      · exact ih.cons _
      · exact ih.cons_cons _
  have hheld : heldBy (fields.filterMap fun f => f.2.map (f.1, ·)) = written fields :=
    funext (heldBy_ofFields hnames)
  rw [ofFields, h.obj room _ names (hnames.sublist hsub), hheld]

theorem text (room : Nat) (s : String) : (arrive room (.str s)).text? = some s := by
  rw [h.str]
  rfl

theorem int64 (room : Nat) (n : Int64) : (arrive room (ofInt64 n)).int64? = some n := by
  rw [ofInt64, h.int]
  exact int64?_ofInt64 n

/-- A word that is read back is read back of its text. -/
theorem word {text : α → String} {ofText? : String → Option α}
    (hword : ∀ a, ofText? (text a) = some a) (room : Nat) (a : α) :
    (arrive room (.str (text a))).word? ofText? = some a := by
  rw [h.str]
  exact hword a

/-- A list is read back, if its items are. -/
theorem list {write : α → Json} {read : Json → Option α} {room : Nat}
    (hread : ∀ a, read (arrive room (write a)) = some a) (as : List α) :
    (arrive (room + 1) (.arr (as.map write))).list? read = some as := by
  rw [h.arr, Json.list?, List.map_map, List.mapM_map]
  have hread : read ∘ arrive room ∘ write = fun a => pure (id a) := funext hread
  rw [hread, List.mapM_pure, List.map_id]
  rfl

end Arrival

/-! ## Values that were written -/

@[simp] theorem isValue_str (s : String) : IsValue (.str s) := trivial

theorem isValue_list {α : Type} {write : α → Json} {as : List α} :
    IsValue (.arr (as.map write)) ↔ ∀ a ∈ as, IsValue (write a) := by
  rw [IsValue, areValues_iff, List.forall_mem_map]

/-! ## Fields that were written -/

namespace Record
variable {α : Type} {g : Json → Json} {write : α → Json} {read : Json → Option α} {r : Record}
  {name : String} {j : Json} {a : α} {o : Option α}

theorem required_written (hr : r name = .given j) (hread : read (g j) = some a) :
    (r.map g).required name read = some a := by
  rw [required_map, required, hr]
  exact hread

theorem defaulted_written {dflt : α} (hr : r name = .given j) (hread : read (g j) = some a) :
    (r.map g).defaulted name dflt read = some a := by
  rw [defaulted_map, defaulted, hr]
  exact hread

/-- A list that is left out where it is empty. -/
theorem defaulted_list_written {as : List α}
    (hr : r name = .ofOption (if as.isEmpty then none else some (.arr (as.map write))))
    (hread : (g (.arr (as.map write))).list? read = some as) :
    (r.map g).defaulted name [] (Json.list? read) = some as := by
  rw [defaulted_map, defaulted, hr]
  cases as with
  | nil => rfl
  | cons a as => exact hread

/-- What is read is not null, to a reader of no nulls. -/
theorem ne_null_of_read (hread : read j = some a) (hnull : read .null = none) :
    j ≠ .null := by
  rintro rfl
  rw [hnull] at hread
  cases hread

/-- Under the name there is what was written of the value, or nothing. -/
theorem map_written (hr : r name = .ofOption (o.map write)) (hnull : read .null = none)
    (hread : ∀ a, read (g (write a)) = some a) :
    (o = none ∧ r.map g name = .absent) ∨
      ∃ a, o = some a ∧ r.map g name = .given (g (write a)) ∧ g (write a) ≠ .null := by
  cases o with
  | none => exact .inl ⟨rfl, by rw [Record.map, hr]; rfl⟩
  | some a =>
    exact .inr ⟨a, rfl, by rw [Record.map, hr]; rfl, ne_null_of_read (hread a) hnull⟩

theorem optional_written (hr : r name = .ofOption (o.map write)) (hnull : read .null = none)
    (hread : ∀ a, read (g (write a)) = some a) : (r.map g).optional name read = some o := by
  obtain ⟨rfl, hslot⟩ | ⟨a, rfl, hslot, hsome⟩ := map_written hr hnull hread
  · rw [optional.eq_def, hslot]
  · rw [optional_of_given hslot hsome, hread]
    rfl

/-- One that is written as null where it is unset. -/
theorem optional_nullable_written (hr : r name = .given ((o.map write).getD .null))
    (hunread : read .null = none) (hnull : g .null = .null)
    (hread : ∀ a, read (g (write a)) = some a) : (r.map g).optional name read = some o := by
  cases o with
  | none =>
    have hslot : r.map g name = .given .null := by
      rw [Record.map, hr]
      exact congrArg Slot.given hnull
    rw [optional.eq_def, hslot]
  | some a =>
    have hslot : r.map g name = .given (g (write a)) := by rw [Record.map, hr]; rfl
    rw [optional_of_given hslot (ne_null_of_read (hread a) hunread), hread]
    rfl

/-- One that a list has to reach. -/
theorem optionalReached_written (hr : r name = .ofOption (o.map write)) (hnull : read .null = none)
    (hread : ∀ a, read (g (write a)) = some a) :
    (r.map g).optionalReached name read = some o := by
  obtain ⟨rfl, hslot⟩ | ⟨a, rfl, hslot, hsome⟩ := map_written hr hnull hread
  · rw [optionalReached.eq_def, hslot]
  · rw [optionalReached.eq_def, hslot]
    have ha := hread a
    split
    · rename_i heq
      exact absurd (Slot.given.inj heq) hsome
    · rename_i heq
      cases heq
      rw [ha]
      rfl
    · rename_i heq
      cases heq
    · rename_i heq
      cases heq

end Record
end ProxySync.Json
