import Mathlib.Data.List.Perm.Basic
import ProxySync.Finalizers
/-!
# Finalizer lists

A finalizer comes to the end of a list that lacks it, and it goes away from wherever it is in a list
that has it, however often it is there. The others stay as they are. Nothing is left to be done a
second time, and to add and then to remove leaves the list that was there.

## Main definitions

* `Finalizers.Without`: a list from which a finalizer is gone, told by what is left in it.

## Main statements

* `Finalizers.without_iff`: there is just one such list.
* `Finalizers.mem_adding?`, `Finalizers.mem_removing?`: what is there afterwards.
* `Finalizers.adding_and_removing`: when there is something to do, what comes of it, and that there
  is nothing to do a second time.
-/
namespace ProxySync.Finalizers
variable {current left after : List String} {finalizer : String}

/-! ## A list without a finalizer -/

/-- A finalizer is gone from a list, and the others are left in their order and as often. -/
structure Without (finalizer : String) (current left : List String) : Prop where
  absent : finalizer ∉ left
  order : left.Sublist current
  multiplicity : ∀ f, f ≠ finalizer → left.count f = current.count f

theorem without_filter (finalizer : String) (current : List String) :
    Without finalizer current (current.filter (· ≠ finalizer)) where
  absent h := of_decide_eq_true (List.mem_filter.1 h).2 rfl
  order := List.filter_sublist
  multiplicity _ hf := List.count_filter (decide_eq_true hf)

theorem without_iff : Without finalizer current left ↔ left = current.filter (· ≠ finalizer) := by
  constructor
  · intro h
    have hfilter := without_filter finalizer current
    have hkept : left.filter (· ≠ finalizer) = left :=
      List.filter_eq_self.2 fun f hf => decide_eq_true fun heq => h.absent (heq ▸ hf)
    have horder : left.Sublist (current.filter (· ≠ finalizer)) := hkept ▸ h.order.filter _
    -- As much is left in both, so that one is not just a part of the other.
    have hcount (f : String) : left.count f = (current.filter (· ≠ finalizer)).count f := by
      by_cases hf : f = finalizer
      · rw [hf, List.count_eq_zero_of_not_mem h.absent,
          List.count_eq_zero_of_not_mem hfilter.absent]
      · rw [h.multiplicity f hf, hfilter.multiplicity f hf]
    exact horder.eq_of_length (List.perm_iff_count.2 hcount).length_eq
  · rintro rfl
    exact without_filter finalizer current

/-! ## Adding and removing -/

theorem adding?_eq_none_iff : adding? current finalizer = none ↔ finalizer ∈ current := by
  simp [adding?]

theorem adding?_eq_some_iff :
    adding? current finalizer = some after ↔
      finalizer ∉ current ∧ after = current ++ [finalizer] := by
  rw [adding?, Option.ite_none_left_eq_some, Option.some.injEq, eq_comm (a := after)]

theorem removing?_eq_none_iff : removing? current finalizer = none ↔ finalizer ∉ current := by
  simp [removing?]

theorem removing?_eq_some_iff :
    removing? current finalizer = some after ↔
      finalizer ∈ current ∧ Without finalizer current after := by
  rw [removing?, Option.ite_none_right_eq_some, Option.some.injEq, without_iff,
    eq_comm (a := after)]

theorem mem_adding? (current : List String) (finalizer f : String) :
    f ∈ (adding? current finalizer).getD current ↔ f = finalizer ∨ f ∈ current := by
  rw [adding?]
  split
  · rename_i hthere
    exact ⟨.inr, fun h => h.elim (fun heq => heq ▸ hthere) id⟩
  · rw [Option.getD_some, List.mem_append, List.mem_singleton, or_comm]

theorem mem_removing? (current : List String) (finalizer f : String) :
    f ∈ (removing? current finalizer).getD current ↔ f ≠ finalizer ∧ f ∈ current := by
  rw [removing?]
  split
  · rw [Option.getD_some, List.mem_filter, decide_eq_true_iff, and_comm]
  · rename_i habsent
    exact ⟨fun h => ⟨fun heq => habsent (heq ▸ h), h⟩, And.right⟩

/-! ## A second time -/

theorem adding?_adding? (current : List String) (finalizer : String) :
    (adding? current finalizer).bind (adding? · finalizer) = none := by
  rw [Option.bind_eq_none_iff]
  intro after hadded
  obtain ⟨-, rfl⟩ := adding?_eq_some_iff.1 hadded
  exact adding?_eq_none_iff.2 (List.mem_append_right _ (List.mem_singleton_self _))

theorem removing?_removing? (current : List String) (finalizer : String) :
    (removing? current finalizer).bind (removing? · finalizer) = none := by
  rw [Option.bind_eq_none_iff]
  intro after hremoved
  obtain ⟨-, hwithout⟩ := removing?_eq_some_iff.1 hremoved
  exact removing?_eq_none_iff.2 hwithout.absent

/-- Whatever is found at the end of a list that lacked it can be taken away again. -/
theorem without_append (h : finalizer ∉ current) :
    Without finalizer (current ++ [finalizer]) current where
  absent := h
  order := List.sublist_append_left _ _
  multiplicity f hf := by
    rw [List.count_append, List.count_singleton, beq_false_of_ne hf.symm, if_neg Bool.false_ne_true,
      Nat.add_zero]

theorem removing?_adding? :
    (adding? current finalizer).bind (removing? · finalizer) = some current ↔
      finalizer ∉ current := by
  constructor
  · intro h hthere
    rw [adding?_eq_none_iff.2 hthere] at h
    cases h
  · intro h
    rw [adding?_eq_some_iff.2 ⟨h, rfl⟩, Option.bind_some, removing?_eq_some_iff]
    exact ⟨List.mem_append_right _ (List.mem_singleton_self _), without_append h⟩

/-- A finalizer is added just where it is missing, and comes to the end; it is removed just where it
is there, and nothing else is. Neither is to be done twice, and the one undoes the other. -/
theorem adding_and_removing (current : List String) (finalizer : String) :
    (adding? current finalizer = none ↔ finalizer ∈ current) ∧
    (∀ after, adding? current finalizer = some after ↔
      finalizer ∉ current ∧ after = current ++ [finalizer]) ∧
    (removing? current finalizer = none ↔ finalizer ∉ current) ∧
    (∀ after, removing? current finalizer = some after ↔
      finalizer ∈ current ∧ Without finalizer current after) ∧
    (adding? current finalizer).bind (adding? · finalizer) = none ∧
    (removing? current finalizer).bind (removing? · finalizer) = none ∧
    ((adding? current finalizer).bind (removing? · finalizer) = some current ↔
      finalizer ∉ current) :=
  ⟨adding?_eq_none_iff, fun _ => adding?_eq_some_iff, removing?_eq_none_iff,
    fun _ => removing?_eq_some_iff, adding?_adding? _ _, removing?_removing? _ _,
    removing?_adding?⟩

example : removing? ["a", "f", "b", "f", "a"] "f" = some ["a", "b", "a"] := by decide

end ProxySync.Finalizers
