import ProxySync.Resource.Condition
/-!
# A status that tells what a pass has to say

A report is put under its type, and there is nothing to write where the status tells it already.

## Main definitions

* `Condition.Matches`: conditions that differ in nothing but the time.
* `Conditions.AreCoherent`: no condition contradicts the first of its type.
* `Status.Tells`: a status that tells a generation and a report.

## Main statements

* `StatusDraft.not_hasChanges_iff`: a draft changes nothing just if the stored status tells it, and
  does not contradict itself.
* `StatusDraft.hasChanges_report`: so where the types of conditions are distinct.
* `StatusDraft.tells_report`: the draft itself tells it.
-/
namespace ProxySync.Resource
variable {now : String} {r : Condition.Report} {cs : List Condition} {c : Condition}

/-- The condition says what the report does. -/
structure Condition.Says (c : Condition) (r : Condition.Report) : Prop where
  kind : c.kind = r.kind
  status : c.status = r.status
  reason : c.reason = some r.reason
  message : c.message = some r.message

/-- The conditions say the same. The time does not matter. -/
structure Condition.Matches (a b : Condition) : Prop where
  kind : a.kind = b.kind
  status : a.status = b.status
  reason : a.reason = b.reason
  message : a.message = b.message

theorem Condition.agrees_iff {a b : Condition} : a.agrees b = true ↔ a.Matches b := by
  rw [agrees, Bool.and_eq_true, Bool.and_eq_true, Bool.and_eq_true, beq_iff_eq, beq_iff_eq,
    beq_iff_eq, beq_iff_eq]
  exact ⟨fun ⟨⟨⟨hkind, hstatus⟩, hreason⟩, hmessage⟩ => ⟨hkind, hstatus, hreason, hmessage⟩,
    fun h => ⟨⟨⟨h.kind, h.status⟩, h.reason⟩, h.message⟩⟩

theorem Condition.Matches.refl (c : Condition) : c.Matches c := ⟨rfl, rfl, rfl, rfl⟩

theorem Condition.Matches.trans {a b c : Condition} (h : a.Matches b) (h' : b.Matches c) :
    a.Matches c :=
  ⟨h.kind.trans h'.kind, h.status.trans h'.status, h.reason.trans h'.reason,
    h.message.trans h'.message⟩

theorem Condition.Says.matches {a b : Condition} (ha : a.Says r) (hb : b.Says r) : a.Matches b :=
  ⟨ha.kind.trans hb.kind.symm, ha.status.trans hb.status.symm, ha.reason.trans hb.reason.symm,
    ha.message.trans hb.message.symm⟩

theorem Condition.Says.of_matches {a b : Condition} (hb : b.Says r) (h : a.Matches b) : a.Says r :=
  ⟨h.kind.trans hb.kind, h.status.trans hb.status, h.reason.trans hb.reason,
    h.message.trans hb.message⟩

namespace Conditions

/-- The types of conditions, in order. -/
def kinds (cs : List Condition) : List String := cs.map (·.kind)

theorem find?_self (h : (kinds cs).Nodup) (hc : c ∈ cs) : find? cs c.kind = some c := by
  induction cs with
  | nil => cases hc
  | cons c₀ cs ih =>
    obtain ⟨hnot, hrest⟩ := List.nodup_cons.1 h
    rw [find?, List.find?_cons]
    rcases List.mem_cons.1 hc with rfl | hc
    · rw [beq_self_eq_true]
    · have hne : c₀.kind ≠ c.kind := fun heq => hnot (List.mem_map.2 ⟨c, hc, heq.symm⟩)
      rw [beq_false_of_ne hne]
      exact ih hrest hc

/-- The report is found under its type. -/
theorem find?_put (now : String) (r : Condition.Report) (cs : List Condition) :
    ∃ c, find? (put now r cs) r.kind = some c ∧ c ∈ put now r cs ∧ c.Says r := by
  induction cs with
  | nil => exact ⟨.ofReport now r, by simp [put, find?, Condition.ofReport], List.mem_cons_self,
      rfl, rfl, rfl, rfl⟩
  | cons c₀ cs ih =>
    rw [put]
    split
    · rename_i hkind
      refine ⟨c₀.revise now r, ?_, List.mem_cons_self, hkind, rfl, rfl, rfl⟩
      rw [find?, List.find?_cons_of_pos]
      exact beq_iff_eq.2 hkind
    · rename_i hkind
      obtain ⟨c, hfind, hmem, htold⟩ := ih
      refine ⟨c, ?_, List.mem_cons_of_mem _ hmem, htold⟩
      rw [find?, List.find?_cons_of_neg (by simpa using hkind)]
      exact hfind

/-- Putting a report adds no type but its own. -/
theorem mem_kinds_put {k : String} (h : k ∈ kinds (put now r cs)) : k ∈ kinds cs ∨ k = r.kind := by
  induction cs with
  | nil => exact .inr (List.mem_singleton.1 h)
  | cons c₀ cs ih =>
    rw [put] at h
    split at h
    · exact .inl h
    · rcases List.mem_cons.1 h with rfl | h
      · exact .inl List.mem_cons_self
      · exact (ih h).imp_left (List.mem_cons_of_mem _)

theorem nodup_put (h : (kinds cs).Nodup) : (kinds (put now r cs)).Nodup := by
  induction cs with
  | nil => simp [put, kinds]
  | cons c₀ cs ih =>
    obtain ⟨hnot, hrest⟩ := List.nodup_cons.1 h
    rw [put]
    split
    · exact h
    · rename_i hkind
      exact List.nodup_cons.2 ⟨fun hmem => (mem_kinds_put hmem).elim hnot hkind, ih hrest⟩

/-- All but the report itself was there before. -/
theorem mem_put (hc : c ∈ put now r cs) : c ∈ cs ∨ c.Says r := by
  induction cs with
  | nil =>
    obtain rfl := List.mem_singleton.1 hc
    exact .inr ⟨rfl, rfl, rfl, rfl⟩
  | cons c₀ cs ih =>
    rw [put] at hc
    split at hc
    · rename_i hkind
      rcases List.mem_cons.1 hc with rfl | hc
      · exact .inr ⟨hkind, rfl, rfl, rfl⟩
      · exact .inl (List.mem_cons_of_mem _ hc)
    · rcases List.mem_cons.1 hc with rfl | hc
      · exact .inl List.mem_cons_self
      · exact (ih hc).imp_left (List.mem_cons_of_mem _)

theorem length_put (h : r.kind ∈ kinds cs) : (put now r cs).length = cs.length := by
  induction cs with
  | nil => cases h
  | cons c₀ cs ih =>
    rw [put]
    split
    · rfl
    · rename_i hkind
      have hrest := (List.mem_cons.1 h).resolve_left (Ne.symm hkind)
      rw [List.length_cons, List.length_cons, ih hrest]

/-- Where putting a report says nothing new, it is said already. -/
theorem says_of_same_put (hsame : same cs (put now r cs) = true) :
    ∃ c, find? cs r.kind = some c ∧ c.Says r := by
  obtain ⟨c, -, hmem, htold⟩ := find?_put now r cs
  have hkept := List.all_eq_true.1 (Bool.and_eq_true_iff.1 hsame).2 c hmem
  rw [htold.kind] at hkept
  cases hfind : find? cs r.kind with
  | none =>
    rw [hfind] at hkept
    cases hkept
  | some c₀ =>
    rw [hfind] at hkept
    exact ⟨c₀, rfl, htold.of_matches (Condition.agrees_iff.1 (by simpa [changed] using hkept))⟩

/-- Putting a report leaves all conditions but the first of its type as they are, in order. -/
theorem eraseP_put (now : String) (r : Condition.Report) (cs : List Condition) :
    (put now r cs).eraseP (·.kind == r.kind) = cs.eraseP (·.kind == r.kind) := by
  induction cs with
  | nil => simp [put, Condition.ofReport]
  | cons c₀ cs ih =>
    rw [put]
    split
    · rename_i hkind
      rw [List.eraseP_cons_of_pos (by simpa [Condition.revise] using hkind),
        List.eraseP_cons_of_pos (by simpa using hkind)]
    · rename_i hkind
      rw [List.eraseP_cons_of_neg (by simpa using hkind),
        List.eraseP_cons_of_neg (by simpa using hkind), ih]

variable (now r) in
theorem mem_put_of_mem (hc : c ∈ cs) : c ∈ put now r cs ∨ find? cs r.kind = some c := by
  induction cs with
  | nil => cases hc
  | cons c₀ cs ih =>
    rw [put, find?]
    by_cases hkind : c₀.kind = r.kind
    · rw [if_pos hkind, List.find?_cons_of_pos (by simpa using hkind)]
      rcases List.mem_cons.1 hc with rfl | hc
      · exact .inr rfl
      · exact .inl (List.mem_cons_of_mem _ hc)
    · rw [if_neg hkind, List.find?_cons_of_neg (by simpa using hkind)]
      rcases List.mem_cons.1 hc with rfl | hc
      · exact .inl List.mem_cons_self
      · exact (ih hc).imp_left (List.mem_cons_of_mem _)

/-- Each condition says the same as the first of its type. -/
def AreCoherent (cs : List Condition) : Prop :=
  ∀ c ∈ cs, ∃ c₀, find? cs c.kind = some c₀ ∧ c₀.Matches c

theorem same_iff_forall {new : List Condition} :
    same cs new = true ↔ cs.length = new.length ∧
      ∀ c ∈ new, ∃ c₀, find? cs c.kind = some c₀ ∧ c₀.Matches c := by
  have hchanged (c : Condition) : (!changed (find? cs c.kind) c) = true ↔
      ∃ c₀, find? cs c.kind = some c₀ ∧ c₀.Matches c := by
    cases find? cs c.kind <;> simp [changed, Condition.agrees_iff]
  simp only [same, Bool.and_eq_true, beq_iff_eq, List.all_eq_true, hchanged]

variable (now) in
/-- Putting what is said already is nothing new just if the conditions of a type do not differ. -/
theorem same_put_iff_areCoherent (htold : ∃ c, find? cs r.kind = some c ∧ c.Says r) :
    same cs (put now r cs) = true ↔ AreCoherent cs := by
  obtain ⟨c, hfind, hc⟩ := htold
  have hmem : r.kind ∈ kinds cs :=
    hc.kind ▸ List.mem_map_of_mem (List.mem_of_find?_eq_some hfind)
  rw [same_iff_forall, length_put hmem, and_iff_right rfl]
  constructor
  · intro hall x hx
    rcases mem_put_of_mem now r hx with hput | hfirst
    · exact hall x hput
    · cases hfind.symm.trans hfirst
      exact ⟨c, hc.kind ▸ hfind, hc.matches hc⟩
  · intro hcoherent x hx
    rcases mem_put hx with hx | hx
    · exact hcoherent x hx
    · exact ⟨c, hx.kind ▸ hfind, hc.matches hx⟩

theorem areCoherent_of_nodup (h : (kinds cs).Nodup) : AreCoherent cs :=
  fun c hc => ⟨c, find?_self h hc, .refl c⟩

end Conditions

/-- The status tells of the generation, and of the report under its type. -/
def Status.Tells (s : Status) (generation : Option Int64) (r : Condition.Report) : Prop :=
  s.observedGeneration = generation ∧
    ∃ c, Conditions.find? s.conditions r.kind = some c ∧ c.Says r

/-- The types of the conditions of a status are distinct. -/
def Status.IsDistinct (s : Status) : Prop := (Conditions.kinds s.conditions).Nodup

namespace StatusDraft
variable {stored : Option Status} {generation : Option Int64}

variable (now) in
/-- A draft changes nothing just if the stored status tells what the pass has to say, and does not
contradict itself. -/
theorem not_hasChanges_iff :
    (((ofStored stored).observe generation).put now r).hasChanges = false ↔
      ∃ s, stored = some s ∧ s.Tells generation r ∧ Conditions.AreCoherent s.conditions := by
  cases stored with
  | none => simp [hasChanges, ofStored, observe, put]
  | some s =>
    constructor
    · intro h
      obtain ⟨hgeneration, hsame⟩ := Bool.or_eq_false_iff.1 h
      have hput : Conditions.same s.conditions (Conditions.put now r s.conditions) = true := by
        simpa [put, observe, ofStored] using hsame
      have htold := Conditions.says_of_same_put hput
      exact ⟨s, rfl, ⟨by simpa [observe, put] using hgeneration, htold⟩,
        (Conditions.same_put_iff_areCoherent now htold).1 hput⟩
    · rintro ⟨_, ⟨⟩, ⟨hgeneration, htold⟩, hcoherent⟩
      have hput := (Conditions.same_put_iff_areCoherent now htold).2 hcoherent
      simp [hasChanges, ofStored, observe, put, hgeneration, hput]

variable (now) in
/-- What a pass has to say is nothing new just if the stored status tells it. -/
theorem hasChanges_report (h : ∀ s ∈ stored, s.IsDistinct) :
    (((ofStored stored).observe generation).put now r).hasChanges = false ↔
      ∃ s, stored = some s ∧ s.Tells generation r := by
  rw [not_hasChanges_iff now]
  constructor
  · rintro ⟨s, hs, htells, -⟩
    exact ⟨s, hs, htells⟩
  · rintro ⟨s, hs, htells⟩
    exact ⟨s, hs, htells, Conditions.areCoherent_of_nodup (h s hs)⟩

/-- Where a pass has nothing new to say, the stored status tells it. -/
theorem tells_of_not_hasChanges {r : Condition.Report}
    (h : (((ofStored stored).observe generation).put now r).hasChanges = false) :
    ∃ s, stored = some s ∧ s.Tells generation r := by
  obtain ⟨s, hs, htells, -⟩ := (not_hasChanges_iff now).1 h
  exact ⟨s, hs, htells⟩

/-- A status that is written tells what the pass has to say. -/
theorem tells_report (now : String) (stored : Option Status) (generation : Option Int64)
    (r : Condition.Report) :
    (((ofStored stored).observe generation).put now r).current.Tells generation r := by
  obtain ⟨c, hfind, _, htold⟩ := Conditions.find?_put now r (stored.getD .empty).conditions
  exact ⟨rfl, c, hfind, htold⟩

theorem isDistinct_report (h : ∀ s ∈ stored, s.IsDistinct) :
    (((ofStored stored).observe generation).put now r).current.IsDistinct := by
  have hstored : (Conditions.kinds (stored.getD .empty).conditions).Nodup := by
    cases stored with
    | none => exact List.nodup_nil
    | some s => exact h s rfl
  exact Conditions.nodup_put hstored

end StatusDraft
end ProxySync.Resource
