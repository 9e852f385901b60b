import ProxySync.Proofs.Failure
import ProxySync.Proofs.Pass.Reporting
import ProxySync.Proofs.Resolution.Members
import ProxySync.Proofs.Resource.WellFormed
/-!
# A failure that comes back

A pass that fails writes what it has to say of the failure, unless the status tells it already. So a
second pass that fails alike has nothing to write, if its message is the same, and if the status
does not contradict itself.

## Main definitions

* `Pass.taken`: the statuses in the course of a pass that the store took.
* `Pass.complaint`: what a pass says of the resource when it fails.
* `Pass.FailTwice`: two passes that fail one after the other, over a resource that nobody edited.
* `Pass.FindsCoherent`: no condition that a pass finds contradicts the first of its type.

## Main statements

* `Pass.noted_of_failed`: what a pass writes that fails.
* `Pass.Unedited.pending_eq_none_iff`: when the second pass has nothing to write.
* `Pass.FailTwice.findsCoherent`: conditions of distinct types do not come to contradict each other.
* `Pass.patched_once_of_alike`: when two passes that fail alike write one status between them.
-/
namespace ProxySync

/-! ## How a resolution fails -/

theorem Findings.servers_ne_kubernetes (f : Findings) (x : ServerEntry) (cause : String) :
    f.servers x ≠ .error (.kubernetes cause) := by
  cases x with
  | fixed => nofun
  | dynamic d =>
    rw [Findings.servers, Findings.members]
    split
    · nofun
    · nofun
    · nofun
    · nofun
    · split <;> nofun

theorem foundServers_ne_kubernetes (found : List (ServerEntry × Findings)) (cause : String) :
    foundServers found ≠ .error (.kubernetes cause) := by
  induction found with
  | nil => nofun
  | cons x found ih =>
    cases hx : x.2.servers x.1 with
    | ok ss =>
      rw [Resolution.foundServers_cons_ok found hx]
      cases hrest : foundServers found with
      | ok _ => nofun
      | error e =>
        rintro ⟨⟩
        exact ih hrest
    | error e =>
      rw [Resolution.foundServers_cons_error found hx, ← hx]
      exact x.2.servers_ne_kubernetes x.1 cause

theorem Desired.not_isKubernetes_of_resolve {τ : Type}
    {members : Environment Membership.interface τ} {t : τ} {d : Desired} {e : PassError}
    (h : (d.resolve.run.run members t).1 = .error e) : ¬ e.IsKubernetes := by
  rintro ⟨cause, rfl⟩
  obtain ⟨_, _, ss, _, _, hdone⟩ | ⟨_, hr, hservers⟩ :=
    Resolution.leads_bind.1 (Dialogue.leads_run members d.resolve.run t)
  · have hok := (Resolution.leads_pure.1 hdone).2
    rw [h] at hok
    cases hok
  · obtain ⟨found, -, -, hfound⟩ := Resolution.entries_of_leads hservers
    rw [h] at hr
    cases hr
    exact foundServers_ne_kubernetes found cause hfound.symm

namespace Pass
open Resource (Status)
variable {σ τ υ : Type} {store : Environment Store.interface σ}
  {members : Environment Membership.interface τ} {plane : Environment DataPlane.interface υ}
  {now now' : String} {c : DataPlane.Client} {key : Key} {b b' : Resource.Backend}
  {report report' : Resource.Condition.Report} {remark : Option Remark} {e e' : PassError}
  {s s' : σ} {t t' : τ} {u u' : υ} {w w' : σ × τ × υ}
  {calls calls' : List ((σ × τ × υ) × Store.Call)} {asked : List (Exchange DataPlane.interface)}

theorem Synchronizes.not_isKubernetes
    (h : Synchronizes members plane c key b t u asked (.error e) t' u') : ¬ e.IsKubernetes := by
  generalize hr : (Except.error e : Except PassError SyncReport) = r at h
  cases h with
  | invalid validate =>
    cases hr
    have hspec := b.spec.validate_spec key.ns
    rw [validate] at hspec
    obtain ⟨-, _, rfl, -⟩ := hspec
    nofun
  | unresolved _ resolve =>
    cases hr
    exact Desired.not_isKubernetes_of_resolve (congrArg Prod.fst resolve)
  | @applied _ d =>
    cases hresult : (((c.apply d).start .fresh).run plane u).1.1 with
    | ok _ =>
      rw [hresult] at hr
      cases hr
    | error _ =>
      rw [hresult] at hr
      cases hr
      nofun

/-! ## What is written of a failure -/

/-- Whether the call writes a status and the store takes it. -/
def takes (store : Environment Store.interface σ) : (σ × τ × υ) × Store.Call → Bool
  | (w, .patchStatus b status) => (store (.patchStatus b status) w.1).1.isOk
  | (_, .get _) => false
  | (_, .addFinalizer _) => false
  | (_, .removeFinalizer _) => false
  | (_, .publish ..) => false

/-- The statuses that calls write and the store takes. -/
def taken (store : Environment Store.interface σ) (calls : List ((σ × τ × υ) × Store.Call)) :
    List Status := statuses (calls.filter (takes store))

theorem taken_append : taken store (calls ++ calls') = taken store calls ++ taken store calls' := by
  rw [taken, List.filter_append, statuses_append]
  rfl

theorem taken_sublist : (taken store calls).Sublist (statuses calls) :=
  List.filter_sublist.filterMap _

theorem taken_eq_nil (h : statuses calls = []) : taken store calls = [] :=
  List.sublist_nil.1 (h ▸ taken_sublist)

/-- Of one status at most all are taken or none. -/
theorem taken_eq_nil_of_ne (h : (statuses calls).length ≤ 1)
    (hne : taken store calls ≠ statuses calls) : taken store calls = [] := by
  have hlt : (taken store calls).length < (statuses calls).length :=
    Nat.lt_of_le_of_ne taken_sublist.length_le fun heq => hne (taken_sublist.eq_of_length heq)
  exact List.length_eq_zero_iff.1 (by omega)

theorem Writes.statuses_eq {d : Resource.StatusDraft} {r : Except PassError Unit}
    (h : Writes store b d t u s calls r s') : statuses calls = d.pending.toList := by
  cases h with
  | same pending =>
    rw [pending]
    rfl
  | written pending =>
    rw [pending]
    rfl

theorem Tells.statuses_eq {r : Except PassError Unit}
    (h : Tells store now b report t u s remark calls r s') :
    statuses calls = (draft now b report).pending.toList := by
  cases h with
  | quiet status => exact status.statuses_eq
  | event remark status => exact status.statuses_eq

/-- A status that cannot be written is not taken. -/
theorem Writes.of_error {d : Resource.StatusDraft}
    (h : Writes store b d t u s calls (.error e) s') :
    e.IsKubernetes ∧ taken store calls = [] := by
  generalize hr : (Except.error e : Except PassError Unit) = r at h
  cases h with
  | same => cases hr
  | @written status pending =>
    cases ha : (store (.patchStatus b status) s).1 with
    | ok _ =>
      rw [ha] at hr
      cases hr
    | error cause =>
      rw [ha] at hr
      cases hr
      have hrefused : takes store ((s, t, u), .patchStatus b status) = false := by
        rw [takes, ha]
        rfl
      exact ⟨⟨cause, rfl⟩, by rw [taken, List.filter_cons_of_neg (by simp [hrefused])]; rfl⟩

theorem Tells.of_error (h : Tells store now b report t u s remark calls (.error e) s') :
    e.IsKubernetes ∧ taken store calls = [] := by
  cases h with
  | quiet status => exact status.of_error
  | event remark status => exact status.of_error

/-- Kubernetes failed and no status was taken, or the failure is of a resource that remains. -/
theorem Course.of_error
    (h : Course store members plane now c key s t u calls asked (.error e) w') :
    (e.IsKubernetes ∧ taken store calls = [] ∧ (statuses calls).length ≤ 1) ∨
      ∃ b s₁, store (.get key) s = (.ok (some b), s₁) ∧
        (b.isDeleting = false ∨ b.hasFinalizer = true) ∧ ¬ e.IsKubernetes ∧
        failsTeardown plane c b u = (b.isDeleting && e.isClient) := by
  generalize hr : (Except.error e : Except PassError PassOutcome) = r at h
  cases h with
  | absent | released | finalized => cases hr
  | unread =>
    cases hr
    exact .inl ⟨⟨_, rfl⟩, rfl, Nat.zero_le 1⟩
  | kept read deleting held teardown =>
    cases hr
    refine .inr ⟨_, _, read, .inr held, by rintro ⟨_, ⟨⟩⟩, ?_⟩
    rw [failsTeardown, teardown, deleting]
    rfl
  | undetached read deleting held teardown =>
    cases hr
    refine .inr ⟨_, _, read, .inr held, by rintro ⟨_, ⟨⟩⟩, ?_⟩
    rw [failsTeardown, teardown, deleting]
    rfl
  | failed read staying synchronize =>
    cases hr
    refine .inr ⟨_, _, read, .inl staying, synchronize.not_isKubernetes, ?_⟩
    rw [failsTeardown, staying]
    rfl
  | unattached read staying =>
    cases hr
    refine .inr ⟨_, _, read, .inl staying, by rintro ⟨_, ⟨⟩⟩, ?_⟩
    rw [failsTeardown, staying]
    rfl
  | @settled _ _ _ _ report r _ _ _ calls₁ calls₂ read staying _ attach reports =>
    cases r with
    | ok _ => cases hr
    | error e =>
      cases hr
      obtain ⟨hkubernetes, htaken⟩ := reports.tells.of_error
      have huntold := attach.tries.untold.2
      refine .inl ⟨hkubernetes, ?_, ?_⟩
      · show taken store (calls₁ ++ calls₂) = []
        rw [taken_append, taken_eq_nil huntold, htaken]
        rfl
      · show (statuses (calls₁ ++ calls₂)).length ≤ 1
        rw [statuses_append, huntold]
        exact reports.tells.told.2

/-- A pass that fails, other than with a status refused, writes what it has to say. -/
theorem Concludes.statuses_of_error (h : Concludes store plane now c b u s calls (.error e) w')
    (hother : ¬ e.IsKubernetes) :
    statuses calls = (draft now b
      (failure e.reason (lament (failsTeardown plane c b u) e).message)).pending.toList := by
  generalize hr : (Except.error e : Except PassError PassOutcome) = r at h
  cases h with
  | @synced _ _ _ _ _ r _ _ _ tells =>
    cases r with
    | ok _ => cases hr
    | error e =>
      cases hr
      exact absurd tells.of_error.1 hother
  | failed tries tells =>
    cases hr
    rw [statuses_append, tries.untold.2, tells.statuses_eq]
    rfl

/-- What a pass says of the resource when it fails. -/
def complaint (b : Resource.Backend) (e : PassError) : Resource.Condition.Report :=
  failure e.reason (lament (b.isDeleting && e.isClient) e).message

/-- What a pass writes that fails: of a failure of Kubernetes nothing that is taken, of any other
what it has to say, unless the status tells it already. -/
theorem noted_of_failed {index : ServiceIndex} {p : Seen σ τ υ}
    (hp : see store members plane c key now index w = p) (hfailed : p.result = .error e) :
    (e.IsKubernetes ∧ taken store p.calls = [] ∧ (statuses p.calls).length ≤ 1) ∨
      ¬ e.IsKubernetes ∧ ∃ b, (store (.get key) p.before.1).1 = .ok (some b) ∧
        statuses p.calls = (draft now b (complaint b e)).pending.toList := by
  subst hp
  obtain ⟨s, t, u⟩ := w
  obtain ⟨hcourse, hconcludes⟩ :=
    goes_reconcile (goes_run store members plane (reconcile now c key) index (s, t, u))
  have hresult : ((start (reconcile now c key) index).run (beside store members plane)
      (s, t, u)).1.1 = .error e := hfailed
  rw [hresult] at hcourse hconcludes
  obtain hkubernetes | ⟨b, s₁, hread, hremains, hother, htorn⟩ := hcourse.of_error
  · exact .inl hkubernetes
  · obtain ⟨told, hcalls, hend⟩ := hconcludes b s₁ hread (hremains.imp_right (⟨·, e, rfl⟩))
    refine .inr ⟨hother, b, congrArg Prod.fst hread, ?_⟩
    have hcalls' : (see store members plane c key now index (s, t, u)).calls =
      ((s, t, u), .get key) :: told := hcalls
    rw [hcalls']
    show statuses told = _
    rw [hend.statuses_of_error hother, htorn]
    rfl

theorem noted_length_le {index : ServiceIndex} {p : Seen σ τ υ}
    (hp : see store members plane c key now index w = p) (hfailed : p.result = .error e) :
    (statuses p.calls).length ≤ 1 := by
  obtain ⟨-, -, hlength⟩ | ⟨-, b, -, hstatuses⟩ := noted_of_failed hp hfailed
  · exact hlength
  · rw [hstatuses]
    exact Option.length_toList_le

/-! ## The second time -/

/-- A pass finds the resource as the one before left it: it was not edited, nor asked to be deleted
in between, and its status is the last that was taken. -/
structure Unedited (b b' : Resource.Backend) (taken : List Status) : Prop where
  generation : b'.metadata.generation = b.metadata.generation
  deleting : b'.isDeleting = b.isDeleting
  status : b'.status = taken.getLast?.or b.status

/-- What the pass before had to say is told. -/
theorem Unedited.told (h : Unedited b b' (draft now b report).pending.toList) :
    ∃ st, b'.status = some st ∧ st.Tells b'.metadata.generation report := by
  have hstatus := h.status
  rw [h.generation]
  cases hchanges : (draft now b report).hasChanges with
  | false =>
    simp only [Resource.StatusDraft.pending, hchanges, Bool.false_eq_true, if_false,
      Option.toList_none, List.getLast?_nil, Option.none_or] at hstatus
    obtain ⟨st, hst, htells⟩ := Resource.StatusDraft.tells_of_not_hasChanges hchanges
    exact ⟨st, hstatus.trans hst, htells⟩
  | true =>
    simp only [Resource.StatusDraft.pending, hchanges, if_true, Option.toList_some,
      List.getLast?_singleton, Option.some_or] at hstatus
    exact ⟨_, hstatus, Resource.StatusDraft.tells_report ..⟩

/-- Of one type of condition a status tells one report. -/
theorem eq_of_tells {st : Status} {generation : Option Int64} (h : st.Tells generation report)
    (h' : st.Tells generation report') (hkind : report.kind = report'.kind) : report = report' := by
  obtain ⟨-, cond, hfind, htold⟩ := h
  obtain ⟨-, cond', hfind', htold'⟩ := h'
  rw [← hkind, hfind] at hfind'
  cases hfind'
  have hstatus := htold.status.symm.trans htold'.status
  have hreason := Option.some.inj (htold.reason.symm.trans htold'.reason)
  have hmessage := Option.some.inj (htold.message.symm.trans htold'.message)
  cases report
  cases report'
  simp_all only

/-- The second pass has nothing to write just if it has the same to say, and finds a status that
does not contradict itself. -/
theorem Unedited.pending_eq_none_iff (h : Unedited b b' (draft now b report).pending.toList)
    (hkind : report.kind = report'.kind) :
    (draft now' b' report').pending = none ↔
      report = report' ∧ ∀ st ∈ b'.status, Resource.Conditions.AreCoherent st.conditions := by
  obtain ⟨st, hst, htells⟩ := h.told
  have hpending : (draft now' b' report').pending = none ↔
      (draft now' b' report').hasChanges = false := by simp [Resource.StatusDraft.pending]
  rw [hpending, draft, Resource.StatusDraft.not_hasChanges_iff now', hst]
  constructor
  · rintro ⟨_, ⟨⟩, htells', hcoherent⟩
    refine ⟨eq_of_tells htells htells' hkind, ?_⟩
    rintro _ ⟨⟩
    exact hcoherent
  · rintro ⟨rfl, hcoherent⟩
    exact ⟨st, rfl, htells, hcoherent st rfl⟩

/-- Of failures that are alike the same is said, unless the messages show something else of the
bodies. -/
theorem complaint_eq_iff (halike : e.Alike e') (hdeleting : b'.isDeleting = b.isDeleting) :
    complaint b e = complaint b' e' ↔ e.shownBody? = e'.shownBody? := by
  rw [← halike.conditionMessage_iff, complaint, complaint, failure, failure, halike.reason_eq,
    halike.isClient_eq, hdeleting]
  cases b.isDeleting && e'.isClient <;> simp [lament, String.append_right_inj]

/-- Two passes over a key that fail, of which the second finds the resource as the first left it. -/
structure FailTwice (store : Environment Store.interface σ)
    (members : Environment Membership.interface τ) (plane : Environment DataPlane.interface υ)
    (c : DataPlane.Client) (key : Key) (p p' : Seen σ τ υ) (e e' : PassError) : Prop where
  first : ∃ now index w, see store members plane c key now index w = p
  second : ∃ now index w, see store members plane c key now index w = p'
  failed : p.result = .error e
  failedAgain : p'.result = .error e'
  unedited : ∀ b b', (store (.get key) p.before.1).1 = .ok (some b) →
    (store (.get key) p'.before.1).1 = .ok (some b') → Unedited b b' (taken store p.calls)

/-- In the status that a pass finds no condition contradicts the first of its type. -/
def FindsCoherent (store : Environment Store.interface σ) (key : Key) (p : Seen σ τ υ) : Prop :=
  ∀ b, (store (.get key) p.before.1).1 = .ok (some b) →
    ∀ st ∈ b.status, Resource.Conditions.AreCoherent st.conditions

namespace FailTwice
variable {p p' : Seen σ τ υ}

theorem length_le (h : FailTwice store members plane c key p p' e e') :
    (statuses p.calls).length ≤ 1 ∧ (statuses p'.calls).length ≤ 1 := by
  obtain ⟨_, _, _, hp⟩ := h.first
  obtain ⟨_, _, _, hp'⟩ := h.second
  exact ⟨noted_length_le hp h.failed, noted_length_le hp' h.failedAgain⟩

/-- The second pass finds no contradiction if the types of conditions were distinct at first. -/
theorem findsCoherent (h : FailTwice store members plane c key p p' e e')
    (hread : (store (.get key) p.before.1).1 = .ok (some b))
    (hdistinct : ∀ st ∈ b.status, st.IsDistinct) : FindsCoherent store key p' := by
  intro b' hread' st hst
  refine Resource.Conditions.areCoherent_of_nodup ?_
  rw [(h.unedited b b' hread hread').status] at hst
  rcases Option.or_eq_some_iff.1 hst with hlast | ⟨-, hstored⟩
  · -- A status that was taken is the one that the first pass drew up.
    have htaken : st ∈ taken store p.calls := List.mem_of_getLast? hlast
    obtain ⟨now, _, _, hp⟩ := h.first
    obtain ⟨-, hnone, -⟩ | ⟨-, b₀, hread₀, hstatuses⟩ := noted_of_failed hp h.failed
    · rw [hnone] at htaken
      cases htaken
    · cases hread.symm.trans hread₀
      have hpending := taken_sublist.subset htaken
      rw [hstatuses, Option.mem_toList, Resource.StatusDraft.pending,
        Option.ite_none_right_eq_some, Option.some.injEq] at hpending
      exact hpending.2 ▸ Resource.StatusDraft.isDistinct_report hdistinct
  · exact hdistinct st hstored

/-- What the second pass writes, unless the store refused what the first wrote. -/
theorem statuses_eq_nil_iff (h : FailTwice store members plane c key p p' e e')
    (halike : e.Alike e') (hother : ¬ e.IsKubernetes)
    (htaken : taken store p.calls = statuses p.calls) :
    statuses p'.calls = [] ↔ e.shownBody? = e'.shownBody? ∧ FindsCoherent store key p' := by
  obtain ⟨now, index, w, hp⟩ := h.first
  obtain ⟨now', index', w', hp'⟩ := h.second
  obtain ⟨-, b, hread, hstatuses⟩ := (noted_of_failed hp h.failed).resolve_left
    fun hkubernetes => hother hkubernetes.1
  obtain ⟨-, b', hread', hstatuses'⟩ := (noted_of_failed hp' h.failedAgain).resolve_left
    fun hkubernetes => hother (halike.isKubernetes_iff.2 hkubernetes.1)
  have hunedited := h.unedited b b' hread hread'
  have hdeleting := hunedited.deleting
  rw [htaken, hstatuses] at hunedited
  have hpending : (draft now' b' (complaint b' e')).pending = none ↔
      complaint b e = complaint b' e' ∧
        ∀ st ∈ b'.status, Resource.Conditions.AreCoherent st.conditions :=
    hunedited.pending_eq_none_iff rfl
  have hfinds : FindsCoherent store key p' ↔
      ∀ st ∈ b'.status, Resource.Conditions.AreCoherent st.conditions :=
    ⟨fun h => h b' hread', fun h b hb => by cases hread'.symm.trans hb; exact h⟩
  rw [hstatuses', Option.toList_eq_nil_iff, hpending, complaint_eq_iff halike hdeleting, hfinds]

/-- Where the second pass has nothing new to say, the two write one status at most, unless the store
refused the first. -/
theorem length_append_le (h : FailTwice store members plane c key p p' e e') (halike : e.Alike e')
    (hbody : e.shownBody? = e'.shownBody?) (hcoherent : FindsCoherent store key p')
    (htaken : taken store p.calls = statuses p.calls) :
    (statuses p.calls ++ statuses p'.calls).length ≤ 1 := by
  by_cases hkubernetes : e.IsKubernetes
  · obtain ⟨_, _, _, hp⟩ := h.first
    obtain ⟨-, hnone, -⟩ := (noted_of_failed hp h.failed).resolve_right (·.1 hkubernetes)
    rw [← htaken, hnone]
    exact h.length_le.2
  · rw [(h.statuses_eq_nil_iff halike hkubernetes htaken).2 ⟨hbody, hcoherent⟩, List.append_nil]
    exact h.length_le.1

end FailTwice

/-- A second failure that is alike has the same message, unless it shows something else of a body:
another body that is not a version, or of a body that is not what was asked for what else the reader
of JSON says. Of two passes that fail alike, one after the other, whatever their partners do, one
status is taken at most, if the same is shown and the second finds a status that does not contradict
itself. Unless the store refused what the first wrote, the second writes none just in this case. -/
theorem patched_once_of_alike (halike : e.Alike e') :
    (e.conditionMessage = e'.conditionMessage ↔ e.shownBody? = e'.shownBody?) ∧
    (∀ d d' : ClientError, e = .client d → e' = .client d' →
      (d.conditionMessage = d'.conditionMessage ↔ d.shownBody? = d'.shownBody?)) ∧
    ∀ p p' : Seen σ τ υ, FailTwice store members plane c key p p' e e' →
      (e.shownBody? = e'.shownBody? → FindsCoherent store key p' →
        (taken store p.calls ++ taken store p'.calls).length ≤ 1 ∧
        (taken store p.calls = statuses p.calls →
          (statuses p.calls ++ statuses p'.calls).length ≤ 1)) ∧
      (¬ e.IsKubernetes → taken store p.calls = statuses p.calls →
        (statuses p'.calls = [] ↔
          e.shownBody? = e'.shownBody? ∧ FindsCoherent store key p')) := by
  refine ⟨halike.conditionMessage_iff, ?_, fun p p' h => ⟨fun hbody hcoherent => ?_, ?_⟩⟩
  · rintro d d' rfl rfl
    exact halike.conditionMessage_iff
  · have honce := h.length_append_le halike hbody hcoherent
    refine ⟨?_, honce⟩
    rw [List.length_append]
    by_cases htaken : taken store p.calls = statuses p.calls
    · have hboth := honce htaken
      rw [List.length_append, ← htaken] at hboth
      exact Nat.le_trans (Nat.add_le_add_left taken_sublist.length_le _) hboth
    · rw [taken_eq_nil_of_ne h.length_le.1 htaken, List.length_nil, Nat.zero_add]
      exact Nat.le_trans taken_sublist.length_le h.length_le.2
  · exact h.statuses_eq_nil_iff halike

/-- A Data Plane that answers every request with the status, and with a body of its own. -/
def counting (status : Nat) : Environment DataPlane.interface Nat
  | .request _, n => (.answered status s!"attempt {n}", n + 1)
  | .measure _, n => ((), n)

/-- Look-ups that find nothing. -/
def noServices : Environment Membership.interface Unit :=
  fun call t => (Simulation.Members.empty.lookUp call, t)

/-- A Data Plane that tells a version, and grants each transaction by a text of its own. -/
def babbling : Environment DataPlane.interface Nat
  | .request q, n =>
    if q.method = .get then (.answered 200 "1", n)
    else (.answered 201 s!"\"attempt {n}\"", n + 1)
  | .measure _, n => ((), n)

/-- A client whose reader of JSON says what it found, and up to where, of a text in the place of a
transaction. -/
def reader : DataPlane.Client :=
  { DataPlane.Client.onThisHost 5555 "admin" "secret" with
    jsonDetail := fun _ body =>
      s!"invalid type: string {body}, expected struct Transaction at line 1 column {body.length}" }

/-- Two passes over a resource with a Data Plane, from the status that is stored at first. -/
def attempts (plane : Environment DataPlane.interface Nat) (stored : Option Status) :
    Seen (Option Status) Unit Nat × Seen (Option Status) Unit Nat :=
  let pass := see (ledger (created ⟨"default", "web"⟩ shopSpec)) noServices plane reader
    ⟨"default", "web"⟩
  let p := pass "2024-05-01T00:00:00Z" .empty (stored, (), 0)
  (p, pass "2024-05-01T00:00:30Z" .empty p.after)

theorem failTwice_attempts {plane : Environment DataPlane.interface Nat} {stored : Option Status}
    {p p' : Seen _ Unit Nat} (hp : attempts plane stored = (p, p'))
    (hleft : p.after.1 =
      (taken (ledger (created ⟨"default", "web"⟩ shopSpec)) p.calls).getLast?.or stored)
    (failed : p.result = .error e) (failedAgain : p'.result = .error e') :
    FailTwice (ledger (created ⟨"default", "web"⟩ shopSpec)) noServices plane reader
      ⟨"default", "web"⟩ p p' e e' := by
  cases hp
  refine ⟨⟨_, _, _, rfl⟩, ⟨_, _, _, rfl⟩, failed, failedAgain, ?_⟩
  rintro _ _ ⟨⟩ ⟨⟩
  exact ⟨rfl, rfl, hleft⟩

/-- A case of it: the Data Plane refuses to tell its version, each time with another body. -/
theorem patched_once_of_alike_refused :
    let key : Key := ⟨"default", "web"⟩
    let store := ledger (created key shopSpec)
    let p := (attempts (counting 500) none).1
    let p' := (attempts (counting 500) none).2
    let e := fun body => PassError.client (.apiResponse "get configuration version" 500 body)
    (e "attempt 0").Alike (e "attempt 1") ∧
    FailTwice store noServices (counting 500) reader key p p' (e "attempt 0") (e "attempt 1") ∧
    FindsCoherent store key p' ∧ (statuses p.calls).length = 1 ∧
    (statuses p.calls ++ statuses p'.calls).length ≤ 1 := by
  intro key store p p' e
  have halike : (e "attempt 0").Alike (e "attempt 1") := .client (.apiResponse ..)
  have htwice : FailTwice store noServices (counting 500) reader key p p' (e "attempt 0")
      (e "attempt 1") :=
    failTwice_attempts rfl (by decide +kernel) (by decide +kernel) (by decide +kernel)
  have hcoherent : FindsCoherent store key p' := htwice.findsCoherent rfl nofun
  exact ⟨halike, htwice, hcoherent, by decide +kernel,
    (((patched_once_of_alike halike).2.2 p p' htwice).1 rfl hcoherent).2 (by decide +kernel)⟩

/-- Neither condition can be left out. A body that is not a version is shown, so that another one is
another message, and so is what is said of a body that is not a transaction. And a status in which
two conditions of one type differ is written each time. -/
theorem not_patched_once_of_alike :
    let key : Key := ⟨"default", "web"⟩
    let store := ledger (created key shopSpec)
    let unversioned := fun body => PassError.client (.versionParse body)
    let illegible := fun body =>
      PassError.client (.decode "transaction" (reader.jsonDetail "transaction" body))
    let refused := fun body => PassError.client (.apiResponse "get configuration version" 500 body)
    let torn : Status :=
      { conditions := [⟨"Available", "True", none, none, none⟩,
          ⟨"Available", "False", none, none, none⟩]
        observedGeneration := none }
    (let p := (attempts (counting 200) none).1
     let p' := (attempts (counting 200) none).2
     (unversioned "attempt 0").Alike (unversioned "attempt 1") ∧
     FailTwice store noServices (counting 200) reader key p p' (unversioned "attempt 0")
       (unversioned "attempt 1") ∧
     (unversioned "attempt 0").conditionMessage ≠ (unversioned "attempt 1").conditionMessage ∧
     (taken store p.calls ++ taken store p'.calls).length = 2) ∧
    (let p := (attempts babbling none).1
     let p' := (attempts babbling none).2
     (illegible "\"attempt 0\"").Alike (illegible "\"attempt 1\"") ∧
     FailTwice store noServices babbling reader key p p' (illegible "\"attempt 0\"")
       (illegible "\"attempt 1\"") ∧
     (illegible "\"attempt 0\"").conditionMessage ≠
       (illegible "\"attempt 1\"").conditionMessage ∧
     (taken store p.calls ++ taken store p'.calls).length = 2) ∧
    (let p := (attempts (counting 500) (some torn)).1
     let p' := (attempts (counting 500) (some torn)).2
     (refused "attempt 0").Alike (refused "attempt 1") ∧
     FailTwice store noServices (counting 500) reader key p p' (refused "attempt 0")
       (refused "attempt 1") ∧
     (refused "attempt 0").conditionMessage = (refused "attempt 1").conditionMessage ∧
     (taken store p.calls ++ taken store p'.calls).length = 2) := by
  intro key store unversioned illegible refused torn
  exact ⟨⟨.client (.versionParse ..),
      failTwice_attempts rfl (by decide +kernel) (by decide +kernel) (by decide +kernel),
      by decide +kernel, by decide +kernel⟩,
    ⟨.client (.decode ..),
      failTwice_attempts rfl (by decide +kernel) (by decide +kernel) (by decide +kernel),
      by decide +kernel, by decide +kernel⟩,
    ⟨.client (.apiResponse ..),
      failTwice_attempts rfl (by decide +kernel) (by decide +kernel) (by decide +kernel),
      by decide +kernel, by decide +kernel⟩⟩

end Pass
end ProxySync
