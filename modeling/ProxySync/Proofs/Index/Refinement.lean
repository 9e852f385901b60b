import Mathlib.Data.Set.Card
import ProxySync.Proofs.Index.Table
import ProxySync.ServiceIndex
/-!
# The index is the relation of the most recent calls

Whatever calls were made of it, the index holds for every backend the Services of the most recent
call about that backend, and nothing else. Its two sides say the same and keep no empty sets, so
calls with the same effect on every backend leave the same index.

## Main definitions

* `ServiceIndex.Relates`: what one side of the index says.
* `ServiceIndex.WellFormed`: the two sides say the same.
* `ServiceIndex.Call`, `ServiceIndex.after`: calls, and the index that they leave.
* `ServiceIndex.Shows`: the index shows the most recent calls.

## Main statements

* `ServiceIndex.WellFormed.update`, `ServiceIndex.WellFormed.remove`: the invariant is kept.
* `ServiceIndex.WellFormed.ext`: an index is what its backends refer to.
* `ServiceIndex.relates_after`: what backends refer to is what was last said of them.
* `ServiceIndex.index_refines`: the index shows the most recent calls.
-/
namespace ProxySync

theorem KeyOrder.before_key {a b : Key} :
    KeyOrder.before a b = true ↔ a.ns < b.ns ∨ a.ns = b.ns ∧ a.name < b.name := by
  change (decide (a.ns < b.ns) || (decide (a.ns = b.ns) && decide (a.name < b.name))) = true ↔ _
  simp

namespace ServiceIndex

/-! ## One side of the index -/

/-- One side of the index puts `j` under `k`. -/
def Relates (t : Table Key (Table Key Unit)) (k j : Key) : Prop :=
  ∃ js, t.get? k = some js ∧ js.contains j = true

/-- One side of the index keeps no empty set. -/
def IsPruned (t : Table Key (Table Key Unit)) : Prop :=
  ∀ k js, t.get? k = some js → js.isEmpty = false

variable {t t' : Table Key (Table Key Unit)} {b b' k j s : Key}

/-- A pruned side is the relation that it says. -/
theorem IsPruned.ext (h : IsPruned t) (h' : IsPruned t')
    (hrelates : ∀ k j, Relates t k j ↔ Relates t' k j) : t = t' := by
  -- A set that is kept has a member, so the other side keeps a set there as well.
  have hfound {t t' : Table Key (Table Key Unit)} (h : IsPruned t)
      (hrelates : ∀ k j, Relates t k j → Relates t' k j) {k js} (hk : t.get? k = some js) :
      ∃ js', t'.get? k = some js' := by
    obtain ⟨j, hj⟩ := Table.isEmpty_eq_false.1 (h k js hk)
    obtain ⟨js', hk', _⟩ := hrelates k j ⟨js, hk, hj⟩
    exact ⟨js', hk'⟩
  refine Table.ext fun k => ?_
  cases hk : t.get? k with
  | none =>
    cases hk' : t'.get? k with
    | none => rfl
    | some js =>
      obtain ⟨js, hsome⟩ := hfound h' (fun k j => (hrelates k j).2) hk'
      rw [hk] at hsome
      cases hsome
  | some js =>
    obtain ⟨js', hk'⟩ := hfound h (fun k j => (hrelates k j).1) hk
    rw [hk']
    refine congrArg some (Table.ext_contains fun j => ?_)
    simpa [Relates, hk, hk'] using hrelates k j

theorem relates_link :
    Relates (link b t s) k j ↔ (s = k ∧ b = j) ∨ Relates t k j := by
  by_cases hk : s = k
  · subst hk
    cases ht : t.get? s <;> simp [Relates, link, ht]
  · simp [Relates, link, hk]

theorem IsPruned.link (h : IsPruned t) : IsPruned (link b t s) := by
  intro k js hk
  rw [ServiceIndex.link, Table.get?_insert] at hk
  split at hk
  · cases hk
    exact Table.isEmpty_eq_false.2 ⟨b, Table.contains_insert.2 (.inl rfl)⟩
  · exact h k js hk

theorem relates_unlink : Relates (unlink b t s) k j ↔ Relates t k j ∧ ¬ (s = k ∧ b = j) := by
  rw [unlink]
  cases ht : t.get? s with
  | none =>
    have hno : Relates t k j → s ≠ k := by
      rintro ⟨js, hk, _⟩ rfl
      rw [ht] at hk
      cases hk
    exact ⟨fun h => ⟨h, fun heq => hno h heq.1⟩, And.left⟩
  | some bs =>
    by_cases hk : s = k
    · subst hk
      by_cases hrest : (bs.erase b).isEmpty = true
      · have hlast : ¬ (b ≠ j ∧ bs.contains j = true) := by
          rw [← Table.contains_erase, Table.isEmpty_eq_true.1 hrest j]
          exact Bool.false_ne_true
        simp only [Relates, hrest, if_true, Table.get?_erase, ht]
        simp only [reduceCtorEq, false_and, exists_false, Option.some.injEq, exists_eq_left',
          true_and, false_iff]
        exact fun h => hlast ⟨h.2, h.1⟩
      · simp [Relates, hrest, ht, and_comm]
    · by_cases hrest : (bs.erase b).isEmpty = true <;> simp [Relates, hrest, hk]

theorem IsPruned.unlink (h : IsPruned t) : IsPruned (unlink b t s) := by
  intro k js hk
  rw [ServiceIndex.unlink] at hk
  split at hk
  · exact h k js hk
  · dsimp only at hk
    split at hk
    · rw [Table.get?_erase] at hk
      split at hk
      · cases hk
      · exact h k js hk
    · rename_i hrest
      rw [Table.get?_insert] at hk
      split at hk
      · cases hk
        exact Bool.not_eq_true _ ▸ hrest
      · exact h k js hk

theorem relates_links (services : List Key) :
    Relates (services.foldl (link b) t) k j ↔ (k ∈ services ∧ b = j) ∨ Relates t k j := by
  induction services generalizing t with
  | nil => simp
  | cons s services ih =>
    rw [List.foldl_cons, ih, relates_link, List.mem_cons, @eq_comm _ k s]
    tauto

theorem IsPruned.links (services : List Key) (h : IsPruned t) :
    IsPruned (services.foldl (ServiceIndex.link b) t) := by
  induction services generalizing t with
  | nil => exact h
  | cons s services ih => exact ih h.link

theorem relates_unlinks (services : List Key) :
    Relates (services.foldl (unlink b) t) k j ↔ Relates t k j ∧ ¬ (k ∈ services ∧ b = j) := by
  induction services generalizing t with
  | nil => simp
  | cons s services ih =>
    rw [List.foldl_cons, ih, relates_unlink, List.mem_cons, @eq_comm _ k s]
    tauto

theorem IsPruned.unlinks (services : List Key) (h : IsPruned t) :
    IsPruned (services.foldl (ServiceIndex.unlink b) t) := by
  induction services generalizing t with
  | nil => exact h
  | cons s services ih => exact ih h.unlink

/-! ## Both sides -/

/-- Both sides of an index say the same and keep no empty set. -/
structure WellFormed (x : ServiceIndex) : Prop where
  inverse : ∀ s b, Relates x.byService s b ↔ Relates x.byBackend b s
  services : IsPruned x.byService
  backends : IsPruned x.byBackend

variable {x y : ServiceIndex} {ss : Table Key Unit}

theorem wellFormed_empty : WellFormed empty where
  inverse s b := by simp [Relates, empty]
  services k js h := by cases h
  backends k js h := by cases h

/-- An index is what its backends refer to. -/
theorem WellFormed.ext (hx : WellFormed x) (hy : WellFormed y)
    (h : ∀ b s, Relates x.byBackend b s ↔ Relates y.byBackend b s) : x = y := by
  have hbackends : x.byBackend = y.byBackend := hx.backends.ext hy.backends h
  have hservices : x.byService = y.byService :=
    hx.services.ext hy.services fun s b =>
      (hx.inverse s b).trans ((h b s).trans (hy.inverse s b).symm)
  cases x
  cases y
  cases hbackends
  cases hservices
  rfl

theorem relates_remove :
    Relates (x.remove b).byBackend b' s ↔ b ≠ b' ∧ Relates x.byBackend b' s := by
  rw [remove]
  cases hb : x.byBackend.get? b with
  | none =>
    refine ⟨fun h => ⟨?_, h⟩, And.right⟩
    rintro rfl
    obtain ⟨_, hget, _⟩ := h
    rw [hb] at hget
    cases hget
  | some services => by_cases h : b = b' <;> simp [Relates, h]

theorem WellFormed.remove (h : WellFormed x) (b : Key) : WellFormed (x.remove b) := by
  rw [ServiceIndex.remove]
  cases hb : x.byBackend.get? b with
  | none => exact h
  | some services =>
    refine ⟨fun s b' => ?_, h.services.unlinks _, fun k js hk => ?_⟩
    · -- What the backend refers to is what is listed for it.
      have hservices : Relates x.byBackend b s ↔ s ∈ services.keys := by
        rw [Table.mem_keys]
        simp [Relates, hb]
      rw [relates_unlinks, h.inverse]
      by_cases hbb : b = b'
      · subst hbb
        simp [Relates, ← hservices]
      · simp [Relates, hbb]
    · rw [Table.get?_erase] at hk
      split at hk
      · cases hk
      · exact h.backends k js hk

/-- An update with no Service forgets the backend. -/
theorem update_of_isEmpty (h : ss.isEmpty = true) : x.update b ss = x.remove b := if_pos h

theorem update_of_not_isEmpty (h : ss.isEmpty = false) : x.update b ss =
    { byService := ss.keys.foldl (link b) (x.remove b).byService
      byBackend := (x.remove b).byBackend.insert b ss } :=
  if_neg (Bool.eq_false_iff.1 h)

theorem relates_update : Relates (x.update b ss).byBackend b' s ↔
    if b = b' then ss.contains s = true else Relates x.byBackend b' s := by
  have hremove : Relates (x.remove b).byBackend b' s ↔ b ≠ b' ∧ Relates x.byBackend b' s :=
    relates_remove
  cases hempty : ss.isEmpty with
  | true =>
    have hno := Table.isEmpty_eq_true.1 hempty s
    rw [update_of_isEmpty hempty, hremove]
    by_cases h : b = b' <;> simp [h, hno]
  | false =>
    rw [update_of_not_isEmpty hempty]
    by_cases h : b = b'
    · simp [Relates, h]
    · simpa [Relates, h] using hremove

theorem WellFormed.update (h : WellFormed x) (b : Key) (ss : Table Key Unit) :
    WellFormed (x.update b ss) := by
  have hremoved := h.remove b
  cases hempty : ss.isEmpty with
  | true =>
    rw [update_of_isEmpty hempty]
    exact hremoved
  | false =>
    have hbackends {b' s : Key} : Relates (x.update b ss).byBackend b' s ↔
        if b = b' then ss.contains s = true else Relates x.byBackend b' s :=
      relates_update
    rw [update_of_not_isEmpty hempty] at hbackends ⊢
    refine ⟨fun s b' => ?_, hremoved.services.links _, fun k js hk => ?_⟩
    · rw [hbackends, relates_links, hremoved.inverse, relates_remove, Table.mem_keys]
      by_cases hbb : b = b' <;> simp [hbb]
    · rw [Table.get?_insert] at hk
      split at hk
      · cases hk
        exact hempty
      · exact hremoved.backends k js hk

/-! ## What is answered -/

theorem mem_backendsFor : b ∈ x.backendsFor s ↔ Relates x.byService s b := by
  rw [backendsFor, Table.mem_keys]
  cases hs : x.byService.get? s <;> simp [Relates, hs]

/-- The number of backends that refer to anything. -/
theorem WellFormed.size_eq (h : WellFormed x) :
    x.size = {b | ∃ s, Relates x.byBackend b s}.ncard := by
  have hkeys : {b | ∃ s, Relates x.byBackend b s} = ↑x.byBackend.keys.toFinset := by
    ext b
    rw [Set.mem_ofPred_eq, Finset.mem_coe, List.mem_toFinset, Table.mem_keys, Table.contains_iff]
    constructor
    · rintro ⟨s, services, hb, _⟩
      exact ⟨services, hb⟩
    · rintro ⟨services, hb⟩
      obtain ⟨s, hs⟩ := Table.isEmpty_eq_false.1 (h.backends b services hb)
      exact ⟨s, services, hb, hs⟩
  rw [hkeys, Set.ncard_coe_finset, List.toFinset_card_of_nodup x.byBackend.nodup_keys,
    Table.length_keys, size]

/-! ## Calls one after the other -/

/-- A call that changes the index. -/
inductive Call where
  | update (backend : Key) (services : Table Key Unit)
  | remove (backend : Key)

namespace Call

/-- The backend that a call is about. -/
def backend : Call → Key
  | .update b _ => b
  | .remove b => b

/-- The Services that a call leaves its backend with. -/
def services : Call → Table Key Unit
  | .update _ services => services
  | .remove _ => .empty

/-- Makes the call. -/
def make (x : ServiceIndex) : Call → ServiceIndex
  | .update b services => x.update b services
  | .remove b => x.remove b

end Call

/-- The index that calls leave of an empty one. -/
def after (calls : List Call) : ServiceIndex := calls.foldl Call.make empty

/-- The most recent call about a backend. -/
def mostRecent? (calls : List Call) (b : Key) : Option Call :=
  calls.reverse.find? (·.backend = b)

/-- The most recent call about the backend was an update with a set that has the Service. -/
def Refers (calls : List Call) (b s : Key) : Prop :=
  ∃ services, mostRecent? calls b = some (.update b services) ∧ services.contains s = true

variable {calls calls' : List Call} {c c' : Call}

/-- What a call leaves of the index. -/
theorem relates_make : Relates (c.make x).byBackend b s ↔
    if c.backend = b then c.services.contains s = true else Relates x.byBackend b s := by
  cases c with
  | update b' services => exact relates_update
  | remove b' =>
    refine relates_remove.trans ?_
    by_cases h : b' = b <;> simp [Call.backend, Call.services, h]

theorem WellFormed.make (h : WellFormed x) (c : Call) : WellFormed (c.make x) := by
  cases c with
  | update b services => exact h.update b services
  | remove b => exact h.remove b

theorem after_concat (calls : List Call) (c : Call) : after (calls ++ [c]) = c.make (after calls) :=
  List.foldl_concat ..

theorem mostRecent?_concat (calls : List Call) (c : Call) (b : Key) :
    mostRecent? (calls ++ [c]) b = if c.backend = b then some c else mostRecent? calls b := by
  rw [mostRecent?, List.reverse_concat, List.find?_cons]
  by_cases h : c.backend = b <;> simp [mostRecent?, h]

theorem refers_concat : Refers (calls ++ [c]) b s ↔
    if c.backend = b then c.services.contains s = true else Refers calls b s := by
  rw [Refers, mostRecent?_concat]
  by_cases h : c.backend = b
  · subst h
    cases c <;> simp [Call.backend, Call.services]
  · simp [Refers, h]

theorem wellFormed_after (calls : List Call) : WellFormed (after calls) := by
  induction calls using List.reverseRecOn with
  | nil => exact wellFormed_empty
  | append_singleton calls c ih =>
    rw [after_concat]
    exact ih.make c

/-- What a backend refers to in the index is what was last said of it. -/
theorem relates_after : Relates (after calls).byBackend b s ↔ Refers calls b s := by
  induction calls using List.reverseRecOn with
  | nil => simp [after, empty, Relates, Refers, mostRecent?]
  | append_singleton calls c ih => rw [after_concat, relates_make, refers_concat, ih]

/-- Calls that say the same of every backend leave the same index. -/
theorem after_congr (h : ∀ b s, Refers calls b s ↔ Refers calls' b s) :
    after calls = after calls' :=
  (wellFormed_after calls).ext (wellFormed_after calls') fun b s =>
    relates_after.trans ((h b s).trans relates_after.symm)

/-- Calls about different backends commute. -/
theorem after_comm (h : c.backend ≠ c'.backend) :
    after (calls ++ [c, c']) = after (calls ++ [c', c]) := by
  refine after_congr fun b s => ?_
  rw [List.append_cons calls c, List.append_cons calls c']
  simp only [refers_concat]
  by_cases hc : c.backend = b
  · have hc' : c'.backend ≠ b := fun heq => h (hc.trans heq.symm)
    simp [hc, hc']
  · simp [hc]

/-- Repeating a call changes nothing. -/
theorem after_repeat (calls : List Call) (c : Call) :
    after (calls ++ [c, c]) = after (calls ++ [c]) := by
  refine after_congr fun b s => ?_
  rw [List.append_cons calls c]
  simp only [refers_concat]
  by_cases hc : c.backend = b <;> simp [hc]

/-! ## The refinement -/

/-- The index shows the most recent calls. -/
structure Shows (calls : List Call) (x : ServiceIndex) : Prop where
  /-- The backends of a Service are listed in strict order. -/
  sorted : ∀ s, (x.backendsFor s).Pairwise fun a b => a.ns < b.ns ∨ a.ns = b.ns ∧ a.name < b.name
  /-- None is listed twice. -/
  nodup : ∀ s, (x.backendsFor s).Nodup
  /-- They are those whose most recent call was an update with that Service. -/
  exact : ∀ s b, b ∈ x.backendsFor s ↔ Refers calls b s
  /-- Those are counted whose most recent call was an update with any Service. -/
  counted : x.size = Set.ncard {b | ∃ services,
    mostRecent? calls b = some (.update b services) ∧ services.isEmpty = false}
  /-- A backend is under a Service just if the Service is under the backend. -/
  inverse : ∀ s b, Relates x.byService s b ↔ Relates x.byBackend b s
  /-- No Service keeps an empty set of backends. -/
  services : IsPruned x.byService
  /-- No backend keeps an empty set of Services. -/
  backends : IsPruned x.byBackend

/-- After any calls the index shows the most recent ones. Calls about different backends commute,
and repeating a call changes nothing. -/
theorem index_refines (calls : List Call) :
    Shows calls (after calls) ∧
    (∀ c c' : Call, c.backend ≠ c'.backend →
      after (calls ++ [c, c']) = after (calls ++ [c', c])) ∧
    ∀ c, after (calls ++ [c, c]) = after (calls ++ [c]) := by
  refine ⟨?_, fun c c' => after_comm, after_repeat calls⟩
  have hwell := wellFormed_after calls
  refine ⟨fun s => ?_, fun s => Table.nodup_keys _, fun s b => ?_, ?_, hwell.inverse,
    hwell.services, hwell.backends⟩
  · exact (Table.pairwise_keys _).imp KeyOrder.before_key.1
  · rw [mem_backendsFor, hwell.inverse, relates_after]
  · rw [hwell.size_eq]
    refine congrArg Set.ncard (Set.ext fun b => ?_)
    simp only [Set.mem_ofPred_eq, relates_after, Refers, Table.isEmpty_eq_false]
    constructor
    · rintro ⟨s, services, hlast, hs⟩
      exact ⟨services, hlast, s, hs⟩
    · rintro ⟨services, hlast, s, hs⟩
      exact ⟨s, services, hlast, hs⟩

/-- A case of it: of two backends under one Service one moves to another. -/
theorem index_refines_moving :
    let web : Key := ⟨"default", "web"⟩
    let api : Key := ⟨"default", "api"⟩
    let cache : Key := ⟨"shared", "cache"⟩
    let calls : List Call :=
      [.update web (.ofList [(cache, ())]), .update api (.ofList [(cache, ())])]
    let moving : Call := .update api (.ofList [(⟨"default", "api-svc"⟩, ())])
    (after calls).backendsFor cache = [api, web] ∧
    Shows (calls ++ [moving]) (after (calls ++ [moving])) ∧
    (after (calls ++ [moving])).backendsFor cache = [web] ∧ (after (calls ++ [moving])).size = 2 ∧
    Call.backend (.remove web) ≠ moving.backend ∧
    after (calls ++ [.remove web, moving]) = after (calls ++ [moving, .remove web]) := by
  intro web api cache calls moving
  have hapart : Call.backend (.remove web) ≠ moving.backend := by decide
  exact ⟨by decide +kernel, (index_refines _).1, by decide +kernel, by decide +kernel, hapart,
    (index_refines calls).2.1 _ _ hapart⟩

end ServiceIndex
end ProxySync
