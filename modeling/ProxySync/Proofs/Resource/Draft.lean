import Mathlib.Data.List.Forall2
import Mathlib.Data.List.Induction
import ProxySync.Proofs.Resource.Condition
/-!
# A status after any calls

Reports are put into a draft and generations are noted, in any order and any number of times. A
report only acts on the first condition of its type, so all others stay where and as they are, and
the types stay in order with the new ones behind them.

## Main definitions

* `StatusDraft.Call`, `StatusDraft.after`: what is done to a draft, and the draft that it leaves.
* `Condition.Report.Moves`, `Condition.TimeAfter`: which reports move the transition time, and the
  time that reports leave.
* `StatusDraft.Reflects`: the draft is what the calls make of the stored status.

## Main statements

* `Conditions.kinds_put`, `Conditions.getElem?_put`, `Conditions.find?_put_self`,
  `Conditions.find?_put_of_ne`: what one report does.
* `Conditions.same_iff`: two lists say the same, where the second revises the first.
* `Condition.timeAfter_revisions`: the time of a condition after reports about its type.
* `StatusDraft.reflects_after`: what all calls together do.
-/
namespace ProxySync.Resource
variable {now : String} {r : Condition.Report} {cs : List Condition} {c : Condition} {k : String}

/-! ## One report -/

/-- The condition that a report leaves under its type. -/
def Condition.revised (now : String) (r : Condition.Report) : Option Condition → Condition
  | some c => c.revise now r
  | none => .ofReport now r

theorem Condition.says_revised (standing : Option Condition)
    (h : ∀ c ∈ standing, c.kind = r.kind) : (revised now r standing).Says r := by
  cases standing with
  | none => exact ⟨rfl, rfl, rfl, rfl⟩
  | some c => exact ⟨h c rfl, rfl, rfl, rfl⟩

namespace Conditions

@[simp] theorem kinds_nil : kinds [] = [] := rfl

@[simp] theorem kinds_cons : kinds (c :: cs) = c.kind :: kinds cs := rfl

@[simp] theorem length_kinds : (kinds cs).length = cs.length := List.length_map ..

@[simp] theorem getElem?_kinds (i : ℕ) : (kinds cs)[i]? = cs[i]?.map (·.kind) :=
  List.getElem?_map ..

theorem kind_of_find? (h : find? cs k = some c) : c.kind = k := by
  simpa using List.find?_some h

/-- The types keep their positions, and a new one comes last. -/
theorem kinds_put (now : String) (r : Condition.Report) (cs : List Condition) :
    kinds (put now r cs) = if r.kind ∈ kinds cs then kinds cs else kinds cs ++ [r.kind] := by
  induction cs with
  | nil => simp [put, Condition.ofReport]
  | cons c cs ih =>
    by_cases hkind : c.kind = r.kind
    · simp [put, hkind, Condition.revise]
    · rw [put, if_neg hkind, kinds_cons, kinds_cons, ih]
      by_cases hmem : r.kind ∈ kinds cs <;> simp [hmem, Ne.symm hkind]

/-- A condition of another type stays as it is, and so does one that is not the first of its
type. -/
theorem getElem?_put {i : ℕ} (hc : cs[i]? = some c)
    (h : c.kind = r.kind → ∃ j < i, (kinds cs)[j]? = some c.kind) :
    (put now r cs)[i]? = some c := by
  induction cs generalizing i with
  | nil => simp at hc
  | cons c₀ cs ih =>
    by_cases hkind : c₀.kind = r.kind
    · rw [put, if_pos hkind]
      cases i with
      | zero =>
        simp only [List.getElem?_cons_zero, Option.some.injEq] at hc
        obtain ⟨j, hj, _⟩ := h (hc ▸ hkind)
        omega
      | succ i => simpa using hc
    · rw [put, if_neg hkind]
      cases i with
      | zero => simpa using hc
      | succ i =>
        rw [List.getElem?_cons_succ] at hc ⊢
        apply ih hc
        intro hck
        obtain ⟨j, hj, hfirst⟩ := h hck
        -- The earlier condition of the type is not the head, which is of another one.
        cases j with
        | zero => simp [hck, hkind] at hfirst
        | succ j => exact ⟨j, by omega, by simpa using hfirst⟩

theorem find?_put_self (now : String) (r : Condition.Report) (cs : List Condition) :
    find? (put now r cs) r.kind = some (Condition.revised now r (find? cs r.kind)) := by
  induction cs with
  | nil => simp [put, find?, Condition.revised, Condition.ofReport]
  | cons c cs ih =>
    by_cases hkind : c.kind = r.kind
    · simp [put, find?, hkind, Condition.revised, Condition.revise]
    · simpa [put, find?, hkind] using ih

theorem find?_put_of_ne (h : k ≠ r.kind) : find? (put now r cs) k = find? cs k := by
  induction cs with
  | nil => simp [put, find?, Condition.ofReport, Ne.symm h]
  | cons c cs ih =>
    by_cases hkind : c.kind = r.kind
    · simp [put, find?, hkind, Condition.revise, Ne.symm h]
    · by_cases hck : c.kind = k
      · simp [put, find?, hck, h]
      · simpa [put, find?, hkind, hck] using ih

/-! ## Comparing lists of conditions -/

/-- A condition is the first of its type, or there is one before it. -/
theorem find?_or_before {i : ℕ} (hc : cs[i]? = some c) :
    find? cs c.kind = some c ∨ ∃ j < i, (kinds cs)[j]? = some c.kind := by
  induction cs generalizing i with
  | nil => simp at hc
  | cons c₀ cs ih =>
    cases i with
    | zero =>
      simp only [List.getElem?_cons_zero, Option.some.injEq] at hc
      simp [find?, hc]
    | succ i =>
      by_cases hkind : c₀.kind = c.kind
      · exact .inr ⟨0, by omega, by simp [hkind]⟩
      · rcases ih (i := i) (by simpa using hc) with hfirst | ⟨j, hj, hbefore⟩
        · exact .inl (by simpa [find?, hkind] using hfirst)
        · exact .inr ⟨j + 1, by omega, by simpa using hbefore⟩

/-- Lists that match position by position say the same, if the first does not contradict itself. -/
theorem same_of_matches {new : List Condition} (hmatches : List.Forall₂ Condition.Matches cs new)
    (hcoherent : AreCoherent cs) : same cs new = true := by
  rw [same_iff_forall]
  refine ⟨hmatches.length_eq, fun b hb => ?_⟩
  obtain ⟨i, hi, rfl⟩ := List.mem_iff_getElem.1 hb
  have hi' : i < cs.length := hmatches.length_eq ▸ hi
  have hab : cs[i].Matches new[i] := (List.forall₂_iff_get.1 hmatches).2 i hi' hi
  obtain ⟨c₀, hfind, hc₀⟩ := hcoherent cs[i] (List.getElem_mem hi')
  rw [hab.kind] at hfind
  exact ⟨c₀, hfind, hc₀.trans hab⟩

/-- Where the second list keeps the types of the first in order, and all conditions that are not the
first of their type, the two say the same just if they match position by position and the first
does not contradict itself. -/
theorem same_iff {new : List Condition} {extra : List String}
    (hkinds : kinds new = kinds cs ++ extra)
    (hkept : ∀ (i : ℕ) (c : Condition), cs[i]? = some c → (∃ j < i, (kinds cs)[j]? = some c.kind) →
      new[i]? = some c) :
    same cs new = true ↔ List.Forall₂ Condition.Matches cs new ∧ AreCoherent cs := by
  refine ⟨fun hsame => ?_, fun h => same_of_matches h.1 h.2⟩
  obtain ⟨hlength, hall⟩ := same_iff_forall.1 hsame
  have hextra : extra = [] := by
    have hlen := congrArg List.length hkinds
    simp only [length_kinds, List.length_append] at hlen
    exact List.eq_nil_of_length_eq_zero (by omega)
  -- At each position stand conditions of one type; the first of the type decides on both.
  have hpoint (i : ℕ) (a b : Condition) (ha : cs[i]? = some a) (hb : new[i]? = some b) :
      a.Matches b ∧ ∃ c₀, find? cs a.kind = some c₀ ∧ c₀.Matches a := by
    have hab : a.kind = b.kind := by
      have hi := congrArg (·[i]?) hkinds
      simpa [hextra, ha, hb, eq_comm] using hi
    obtain ⟨c₀, hfind, hmatches⟩ := hall b (List.mem_of_getElem? hb)
    rcases find?_or_before ha with hfirst | hbefore
    · rw [← hab, hfirst] at hfind
      cases hfind
      exact ⟨hmatches, a, hfirst, .refl a⟩
    · have hkeep := hkept i a ha hbefore
      rw [hb] at hkeep
      cases hkeep
      exact ⟨.refl a, c₀, hfind, hmatches⟩
  constructor
  · refine List.forall₂_iff_get.2 ⟨hlength, fun i hi hi' => ?_⟩
    exact (hpoint i _ _ (List.getElem?_eq_getElem hi) (List.getElem?_eq_getElem hi')).1
  · intro a ha
    obtain ⟨i, hi⟩ := List.mem_iff_getElem?.1 ha
    have hlt : i < new.length := hlength ▸ (List.getElem?_eq_some_iff.1 hi).1
    exact (hpoint i a _ hi (List.getElem?_eq_getElem hlt)).2

end Conditions

/-! ## The transition time -/

namespace Condition
variable {standing : Option Condition} {rs : List (String × Report)}

/-- The report moves the transition time. After other reports about its type it does if its status
is not that of the last one; the first one does unless it finds a condition of its status that has
a time. -/
def Report.Moves (standing : Option Condition) (earlier : List (String × Report)) (r : Report) :
    Prop :=
  match earlier.getLast? with
  | some (_, last) => last.status ≠ r.status
  | none => ∀ c ∈ standing, c.status ≠ r.status ∨ c.lastTransitionTime = none

/-- The transition time that reports about the type of a condition leave. -/
inductive TimeAfter (standing : Option Condition) :
    List (String × Report) → Option String → Prop
  /-- It is the time of the latest report that moved it, -/
  | moved {front rest : List (String × Report)} {now : String} {r : Report}
      (moves : r.Moves standing front)
      (since : ∀ front' now' r' rest', rest = front' ++ (now', r') :: rest' →
        ¬ r'.Moves standing (front ++ (now, r) :: front')) :
      TimeAfter standing (front ++ (now, r) :: rest) (some now)
  /-- or the one from before, where none has. -/
  | kept {rs : List (String × Report)} {c : Condition} (standing_eq : standing = some c)
      (steady : ∀ front now r rest, rs = front ++ (now, r) :: rest → ¬ r.Moves standing front) :
      TimeAfter standing rs c.lastTransitionTime

/-- What stands before the last of some reports. -/
theorem eq_append_concat {α : Type} {xs front rest : List α} {x y : α}
    (h : xs ++ [x] = front ++ y :: rest) :
    (front = xs ∧ y = x ∧ rest = []) ∨ ∃ rest', rest = rest' ++ [x] ∧ xs = front ++ y :: rest' := by
  rcases List.eq_nil_or_concat rest with rfl | ⟨rest', z, rfl⟩
  · obtain ⟨rfl, rfl⟩ : xs = front ∧ x = y := by simpa using List.append_inj' h rfl
    exact .inl ⟨rfl, rfl, rfl⟩
  · rw [List.concat_eq_append, ← List.cons_append, ← List.append_assoc] at h
    obtain ⟨rfl, hz⟩ := List.append_inj' h rfl
    cases hz
    exact .inr ⟨rest', List.concat_eq_append, rfl⟩

/-- A report that moves the time sets it to its own. -/
theorem TimeAfter.concat_moves (h : r.Moves standing rs) :
    TimeAfter standing (rs ++ [(now, r)]) (some now) :=
  .moved h fun front' _ _ _ heq => by simp at heq

/-- A report that does not move it leaves it. -/
theorem TimeAfter.concat_steady {time : Option String} (ht : TimeAfter standing rs time)
    (h : ¬ r.Moves standing rs) : TimeAfter standing (rs ++ [(now, r)]) time := by
  cases ht with
  | @moved front rest now₀ r₀ moves since =>
    rw [List.append_assoc, List.cons_append]
    refine .moved moves fun front' now' r' rest' heq => ?_
    rcases eq_append_concat heq with ⟨rfl, hlast, _⟩ | ⟨rest'', _, hrest⟩
    · cases hlast
      exact h
    · exact since _ _ _ _ hrest
  | kept standing_eq steady =>
    refine .kept standing_eq fun front now' r' rest' heq => ?_
    rcases eq_append_concat heq with ⟨rfl, hlast, _⟩ | ⟨rest'', _, hrest⟩
    · cases hlast
      exact h
    · exact steady _ _ _ _ hrest

/-- The condition after reports about its type, one after the other. -/
def revisions (standing : Option Condition) (rs : List (String × Report)) : Option Condition :=
  rs.foldl (fun c? p => some (revised p.1 p.2 c?)) standing

theorem revisions_concat (standing : Option Condition) (rs : List (String × Report))
    (now : String) (r : Report) :
    revisions standing (rs ++ [(now, r)]) = some (revised now r (revisions standing rs)) := by
  simp [revisions]

/-- A condition keeps the time that it has as long as its status stays. -/
theorem lastTransitionTime_revised (now : String) (r : Report) (c : Condition) :
    (revised now r (some c)).lastTransitionTime =
      if c.status ≠ r.status ∨ c.lastTransitionTime = none then some now
      else c.lastTransitionTime := by
  cases htime : c.lastTransitionTime <;> by_cases hstatus : c.status = r.status <;>
    simp [revised, revise, hstatus, htime]

/-- A report that no other one about its type precedes leaves such a time. -/
theorem timeAfter_first (now : String) (r : Report) (standing : Option Condition) :
    TimeAfter standing [(now, r)] (revised now r standing).lastTransitionTime := by
  cases standing with
  | none =>
    have hmoves : r.Moves none [] := by simp [Report.Moves]
    exact .concat_moves hmoves
  | some c =>
    have hmoves : r.Moves (some c) [] ↔ c.status ≠ r.status ∨ c.lastTransitionTime = none := by
      simp [Report.Moves]
    rw [lastTransitionTime_revised]
    split
    · exact .concat_moves (hmoves.2 (by assumption))
    · exact .concat_steady (.kept rfl (by simp)) (hmoves.not.2 (by assumption))

/-- After reports about its type a condition says the last of them, and has the time that they
leave. -/
theorem timeAfter_revisions (hstanding : ∀ c ∈ standing, c.kind = k)
    (hrs : ∀ p ∈ rs, p.2.kind = k) (now : String) (hr : r.kind = k) :
    ∃ c, revisions standing (rs ++ [(now, r)]) = some c ∧ c.Says r ∧
      TimeAfter standing (rs ++ [(now, r)]) c.lastTransitionTime ∧
      c.lastTransitionTime.isSome = true := by
  rw [revisions_concat]
  induction rs using List.reverseRecOn generalizing now r with
  | nil =>
    refine ⟨_, rfl, says_revised standing fun c hc => (hstanding c hc).trans hr.symm,
      timeAfter_first now r standing, ?_⟩
    cases standing <;> rfl
  | append_singleton rs p ih =>
    obtain ⟨now₀, r₀⟩ := p
    obtain ⟨hrs, hr₀⟩ : (∀ p ∈ rs, p.2.kind = k) ∧ r₀.kind = k := by
      simpa [or_imp, forall_and] using hrs
    rw [revisions_concat]
    obtain ⟨c, hc, hreport, htime, hsome⟩ := ih hrs now₀ hr₀
    cases hc
    generalize revised now₀ r₀ (revisions standing rs) = c at *
    refine ⟨_, rfl, ⟨hreport.kind.trans (hr₀.trans hr.symm), rfl, rfl, rfl⟩, ?_, rfl⟩
    have hnone : c.lastTransitionTime ≠ none := Option.isSome_iff_ne_none.1 hsome
    rw [lastTransitionTime_revised, hreport.status]
    by_cases hstatus : r₀.status = r.status
    · rw [if_neg (by simp [hstatus, hnone])]
      exact htime.concat_steady (by simp [Report.Moves, hstatus])
    · rw [if_pos (.inl hstatus)]
      exact .concat_moves (by simpa [Report.Moves] using hstatus)

end Condition

/-! ## All calls -/

namespace StatusDraft

/-- What is done to a draft. -/
inductive Call where
  | put (now : String) (r : Condition.Report)
  | observe (generation : Option Int64)

namespace Call

/-- The draft after a call. -/
def apply : Call → StatusDraft → StatusDraft
  | put now r, d => d.put now r
  | observe generation, d => d.observe generation

/-- The report that a call puts, and when. -/
def report? : Call → Option (String × Condition.Report)
  | put now r => some (now, r)
  | observe _ => none

/-- The generation that a call notes. -/
def generation? : Call → Option (Option Int64)
  | put _ _ => none
  | observe generation => some generation

end Call

variable {stored : Option Status} {calls : List Call}

/-- The draft that calls make of a stored status. -/
def after (stored : Option Status) (calls : List Call) : StatusDraft :=
  calls.foldl (fun d call => call.apply d) (.ofStored stored)

/-- The reports about a type, in order, each with its time. -/
def reportsOn (kind : String) (calls : List Call) : List (String × Condition.Report) :=
  (calls.filterMap Call.report?).filter (·.2.kind == kind)

/-- The types of the reports, in the order of first use, but for those that are there already. -/
def newKinds (old : List String) (calls : List Call) : List String :=
  (((calls.filterMap Call.report?).map (·.2.kind)).filter fun k => !old.contains k).eraseDups

/-- The draft is what the calls make of the stored status. -/
structure Reflects (stored : Option Status) (calls : List Call) (d : StatusDraft) : Prop where
  /-- The types keep their positions, and new ones follow in the order of first use. -/
  kinds : Conditions.kinds d.current.conditions =
    Conditions.kinds (stored.getD .empty).conditions ++
      newKinds (Conditions.kinds (stored.getD .empty).conditions) calls
  /-- A condition of a type without reports is untouched, and so is one that is not the first of its
  type. -/
  untouched : ∀ (i : ℕ) (c : Condition), (stored.getD .empty).conditions[i]? = some c →
    (reportsOn c.kind calls = [] ∨
      ∃ j < i, (Conditions.kinds (stored.getD .empty).conditions)[j]? = some c.kind) →
    d.current.conditions[i]? = some c
  /-- The first condition of a type with reports says the last of them, with the time that they
  leave. -/
  told : ∀ front now r, reportsOn r.kind calls = front ++ [(now, r)] →
    ∃ c, Conditions.find? d.current.conditions r.kind = some c ∧ c.Says r ∧
      Condition.TimeAfter (Conditions.find? (stored.getD .empty).conditions r.kind)
        (front ++ [(now, r)]) c.lastTransitionTime
  /-- The generation is the one noted last. -/
  generation : d.current.observedGeneration =
    (calls.filterMap Call.generation?).getLast?.getD (stored.getD .empty).observedGeneration
  /-- Distinct types stay distinct. -/
  distinct : (∀ s ∈ stored, s.IsDistinct) → d.current.IsDistinct
  /-- There is nothing to write just if a status is stored with the same generation and with
  conditions that match one by one, which does not contradict itself. -/
  pending_eq_none : d.pending = none ↔ ∃ s, stored = some s ∧
    s.observedGeneration = d.current.observedGeneration ∧
    List.Forall₂ Condition.Matches s.conditions d.current.conditions ∧
    Conditions.AreCoherent s.conditions
  /-- Where types are distinct it cannot do that. -/
  pending_of_distinct : (∀ s ∈ stored, s.IsDistinct) → (d.pending = none ↔ ∃ s, stored = some s ∧
    s.observedGeneration = d.current.observedGeneration ∧
    List.Forall₂ Condition.Matches s.conditions d.current.conditions)
  /-- What there is to write is the draft. -/
  pending_eq : ∀ s ∈ d.pending, s = d.current

theorem after_concat (stored : Option Status) (calls : List Call) (call : Call) :
    after stored (calls ++ [call]) = call.apply (after stored calls) := by
  simp [after]

@[simp] theorem reportsOn_concat_put (calls : List Call) (now : String) (r : Condition.Report) :
    reportsOn k (calls ++ [.put now r]) =
      reportsOn k calls ++ if r.kind = k then [(now, r)] else [] := by
  by_cases h : r.kind = k <;> simp [reportsOn, Call.report?, h]

@[simp] theorem reportsOn_concat_observe (calls : List Call) (generation : Option Int64) :
    reportsOn k (calls ++ [.observe generation]) = reportsOn k calls := by
  simp [reportsOn, Call.report?]

theorem kind_of_mem_reportsOn {p : String × Condition.Report} (h : p ∈ reportsOn k calls) :
    p.2.kind = k := by
  simpa using (List.mem_filter.1 h).2

theorem newKinds_concat_observe (old : List String) (calls : List Call)
    (generation : Option Int64) :
    newKinds old (calls ++ [.observe generation]) = newKinds old calls := by
  have hnone : [Call.observe generation].filterMap Call.report? = [] := rfl
  rw [newKinds, List.filterMap_append, hnone, List.append_nil, newKinds]

theorem newKinds_concat_put (old : List String) (calls : List Call) (now : String)
    (r : Condition.Report) :
    newKinds old (calls ++ [.put now r]) =
      if r.kind ∈ old ++ newKinds old calls then newKinds old calls
      else newKinds old calls ++ [r.kind] := by
  have hmem : r.kind ∈ newKinds old calls ↔
      r.kind ∈ (calls.filterMap Call.report?).map (·.2.kind) ∧ r.kind ∉ old := by
    simp [newKinds]
  by_cases hold : r.kind ∈ old
  · simp [newKinds, Call.report?, hold]
  · by_cases hnew : r.kind ∈ newKinds old calls
    · have hearlier := (hmem.1 hnew).1
      rw [if_pos (List.mem_append_right _ hnew)]
      simp [newKinds, Call.report?, hold, List.eraseDups_append, List.removeAll, hearlier]
    · have hnever : r.kind ∉ (calls.filterMap Call.report?).map (·.2.kind) :=
        fun h => hnew (hmem.2 ⟨h, hold⟩)
      rw [if_neg (by simp [hold, hnew])]
      simp [newKinds, Call.report?, hold, List.eraseDups_append, List.removeAll, hnever,
        List.eraseDups_cons]

theorem stored_after (stored : Option Status) (calls : List Call) :
    (after stored calls).stored = stored := by
  induction calls using List.reverseRecOn with
  | nil => rfl
  | append_singleton calls call ih =>
    rw [after_concat]
    cases call <;> simpa [Call.apply, put, observe] using ih

theorem kinds_after (stored : Option Status) (calls : List Call) :
    Conditions.kinds (after stored calls).current.conditions =
      Conditions.kinds (stored.getD .empty).conditions ++
        newKinds (Conditions.kinds (stored.getD .empty).conditions) calls := by
  induction calls using List.reverseRecOn with
  | nil => simp [after, ofStored, newKinds]
  | append_singleton calls call ih =>
    rw [after_concat]
    cases call with
    | put now r =>
      rw [newKinds_concat_put, ← ih]
      simp only [Call.apply, put, Conditions.kinds_put]
      split
      · exact ih
      · rw [ih, List.append_assoc]
    | observe generation =>
      rw [newKinds_concat_observe]
      exact ih

/-- What is not touched by any report stays. -/
theorem getElem?_after {i : ℕ} (hc : (stored.getD .empty).conditions[i]? = some c)
    (h : reportsOn c.kind calls = [] ∨
      ∃ j < i, (Conditions.kinds (stored.getD .empty).conditions)[j]? = some c.kind) :
    (after stored calls).current.conditions[i]? = some c := by
  induction calls using List.reverseRecOn with
  | nil => exact hc
  | append_singleton calls call ih =>
    rw [after_concat]
    cases call with
    | put now r =>
      rw [reportsOn_concat_put] at h
      have hkept := ih (h.imp_left fun h => (List.append_eq_nil_iff.1 h).1)
      apply Conditions.getElem?_put hkept
      intro hkind
      rcases h with h | ⟨j, hj, hbefore⟩
      · simp [hkind] at h
      · have hlt := (List.getElem?_eq_some_iff.1 hbefore).1
        refine ⟨j, hj, ?_⟩
        rw [kinds_after, List.getElem?_append_left hlt]
        exact hbefore
    | observe generation => exact ih (by simpa using h)

/-- Under each type stands what the reports about it make of the condition that stood there. -/
theorem find?_after (stored : Option Status) (calls : List Call) (k : String) :
    Conditions.find? (after stored calls).current.conditions k =
      Condition.revisions (Conditions.find? (stored.getD .empty).conditions k)
        (reportsOn k calls) := by
  induction calls using List.reverseRecOn with
  | nil => rfl
  | append_singleton calls call ih =>
    rw [after_concat]
    cases call with
    | put now r =>
      by_cases hkind : r.kind = k
      · subst hkind
        simp [Call.apply, put, Conditions.find?_put_self, Condition.revisions_concat, ih]
      · simpa [Call.apply, put, Conditions.find?_put_of_ne (Ne.symm hkind), hkind] using ih
    | observe generation => simpa [Call.apply, observe] using ih

theorem generation_after (stored : Option Status) (calls : List Call) :
    (after stored calls).current.observedGeneration =
      (calls.filterMap Call.generation?).getLast?.getD
        (stored.getD .empty).observedGeneration := by
  induction calls using List.reverseRecOn with
  | nil => rfl
  | append_singleton calls call ih =>
    rw [after_concat]
    cases call with
    | put now r => simpa [Call.apply, put, Call.generation?] using ih
    | observe generation => simp [Call.apply, observe, Call.generation?]

theorem isDistinct_after (h : ∀ s ∈ stored, s.IsDistinct) :
    (after stored calls).current.IsDistinct := by
  induction calls using List.reverseRecOn with
  | nil =>
    cases stored with
    | none => exact List.nodup_nil
    | some s => exact h s rfl
  | append_singleton calls call ih =>
    rw [after_concat]
    cases call with
    | put now r => exact Conditions.nodup_put ih
    | observe generation => exact ih

theorem pending_eq_none_iff (d : StatusDraft) :
    d.pending = none ↔ ∃ s, d.stored = some s ∧
      s.observedGeneration = d.current.observedGeneration ∧
      Conditions.same s.conditions d.current.conditions = true := by
  cases hd : d.stored <;> simp [pending, hasChanges, hd]

theorem pending_after_eq_none (stored : Option Status) (calls : List Call) :
    (after stored calls).pending = none ↔ ∃ s, stored = some s ∧
      s.observedGeneration = (after stored calls).current.observedGeneration ∧
      List.Forall₂ Condition.Matches s.conditions (after stored calls).current.conditions ∧
      Conditions.AreCoherent s.conditions := by
  rw [pending_eq_none_iff, stored_after]
  refine exists_congr fun s => and_congr_right fun hs => and_congr_right fun _ => ?_
  subst hs
  exact Conditions.same_iff (kinds_after (some s) calls) fun i c hc hbefore =>
    getElem?_after hc (.inr hbefore)

/-- Whatever is stored and whatever calls are made, the draft is what they make of it. -/
theorem reflects_after (stored : Option Status) (calls : List Call) :
    Reflects stored calls (after stored calls) where
  kinds := kinds_after stored calls
  untouched i c hc h := getElem?_after hc h
  told := by
    intro front now r hreports
    have hkind : ∀ p ∈ front ++ [(now, r)], p.2.kind = r.kind := by
      intro p hp
      rw [← hreports] at hp
      exact kind_of_mem_reportsOn hp
    have hstanding : ∀ c ∈ Conditions.find? (stored.getD .empty).conditions r.kind,
        c.kind = r.kind := fun c hc => Conditions.kind_of_find? hc
    obtain ⟨c, hc, hreport, htime, _⟩ := Condition.timeAfter_revisions hstanding
      (fun p hp => hkind p (List.mem_append_left _ hp)) now rfl
    exact ⟨c, by rw [find?_after, hreports, hc], hreport, htime⟩
  generation := generation_after stored calls
  distinct := isDistinct_after
  pending_eq_none := pending_after_eq_none stored calls
  pending_of_distinct := by
    intro hdistinct
    rw [pending_after_eq_none]
    constructor
    · rintro ⟨s, hs, hgeneration, hmatches, _⟩
      exact ⟨s, hs, hgeneration, hmatches⟩
    · rintro ⟨s, hs, hgeneration, hmatches⟩
      exact ⟨s, hs, hgeneration, hmatches, Conditions.areCoherent_of_nodup (hdistinct s hs)⟩
  pending_eq := by
    intro s hs
    simp only [pending, Option.mem_def] at hs
    split at hs
    · exact (Option.some.inj hs).symm
    · cases hs

/-- A stored status that contradicts itself is written again, though nothing has been said. -/
example :
    (after (some ⟨[⟨"Ready", "True", none, none, none⟩, ⟨"Ready", "False", none, none, none⟩],
      none⟩) []).pending.isSome = true := by decide

end StatusDraft
end ProxySync.Resource
