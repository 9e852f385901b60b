import ProxySync.Proofs.Pass.Gating
import ProxySync.Proofs.Resource.Condition
/-!
# The status tells of the pass

Whatever fails in the course of a pass, what it leaves on a resource that remains tells of its
result: the status under its type, and the events beside it.

## Main definitions

* `Pass.remarks`, `Pass.statuses`: the events and the statuses in the course of a pass.
* `Pass.KeepsStatus`: in the course of a pass the store keeps the status that it is given.
* `Pass.SaysOf`: the condition says what came of a pass.
* `Pass.Reflects`: the status and the events tell of the result of a pass.

## Main statements

* `Pass.Tells.told`, `Pass.Tells.shows`: what a step that tells of a report publishes and leaves.
* `Pass.Concludes.shows`: so of a whole pass over a resource that remains.
* `Pass.status_reflects`: a pass over a resource that remains is told of.
-/
namespace ProxySync.Pass
open Resource (Status)
variable {σ τ υ : Type} {store : Environment Store.interface σ}
  {members : Environment Membership.interface τ} {plane : Environment DataPlane.interface υ}
  {now : String} {c : DataPlane.Client} {b : Resource.Backend} {report : Resource.Condition.Report}
  {remark : Option Remark} {s s₁ s' : σ} {t : τ} {u : υ} {w' : σ × τ × υ}
  {calls calls' : List ((σ × τ × υ) × Store.Call)}

/-! ## Events and statuses -/

/-- The event that a call publishes. -/
def remark? : Store.Call → Option Remark
  | .publish _ remark => some remark
  | .get _ => none
  | .addFinalizer _ => none
  | .removeFinalizer _ => none
  | .patchStatus .. => none

/-- The status that a call writes. -/
def status? : Store.Call → Option Status
  | .patchStatus _ status => some status
  | .get _ => none
  | .addFinalizer _ => none
  | .removeFinalizer _ => none
  | .publish .. => none

/-- The events that calls publish. -/
def remarks (calls : List ((σ × τ × υ) × Store.Call)) : List Remark :=
  calls.filterMap (remark? ·.2)

/-- The statuses that calls write. -/
def statuses (calls : List ((σ × τ × υ) × Store.Call)) : List Status :=
  calls.filterMap (status? ·.2)

@[simp] theorem remarks_append : remarks (calls ++ calls') = remarks calls ++ remarks calls' :=
  List.filterMap_append

@[simp] theorem statuses_append :
    statuses (calls ++ calls') = statuses calls ++ statuses calls' :=
  List.filterMap_append

/-- The events of a result. -/
def remarksOf (torn : Bool) : Except PassError PassOutcome → List Remark
  | .ok (.synced report) =>
    if report.hasChanges then [⟨.normal, "Synced", report.summary⟩] else []
  | .ok .absent => []
  | .ok .finalized => []
  | .error e => [lament torn e]

theorem Tries.untold (h : Tries store b t u s calls s') :
    remarks calls = [] ∧ statuses calls = [] := by
  cases h <;> exact ⟨rfl, rfl⟩

theorem Writes.told {d : Resource.StatusDraft} {r : Except PassError Unit}
    (h : Writes store b d t u s calls r s') :
    remarks calls = [] ∧ (statuses calls).length ≤ 1 := by
  cases h with
  | same => exact ⟨rfl, Nat.zero_le 1⟩
  | written => exact ⟨rfl, Nat.le_refl 1⟩

theorem Tells.told {r : Except PassError Unit}
    (h : Tells store now b report t u s remark calls r s') :
    remarks calls = remark.toList ∧ (statuses calls).length ≤ 1 := by
  cases h with
  | quiet status => exact status.told
  | event remark status =>
    obtain ⟨hremarks, hstatuses⟩ := status.told
    exact ⟨congrArg (remark :: ·) hremarks, hstatuses⟩

/-! ## The stored status -/

/-- In the course of the calls the store keeps the status: one that is written is accepted and
stays, and nothing else changes it. -/
structure KeepsStatus (store : Environment Store.interface σ) (stored : σ → Option Status)
    (calls : List ((σ × τ × υ) × Store.Call)) : Prop where
  written : ∀ w b status, (w, .patchStatus b status) ∈ calls →
    (store (.patchStatus b status) w.1).1 = .ok () ∧
      stored (store (.patchStatus b status) w.1).2 = some status
  kept : ∀ w call, (w, call) ∈ calls → status? call = none →
    stored (store call w.1).2 = stored w.1

theorem KeepsStatus.mono {stored : σ → Option Status} (h : KeepsStatus store stored calls)
    (hsub : ∀ x ∈ calls', x ∈ calls) : KeepsStatus store stored calls' where
  written w b status hmem := h.written w b status (hsub _ hmem)
  kept w call hmem := h.kept w call (hsub _ hmem)

/-- The status tells of the generation, and of the report before all others of its type; the others
are those of the resource. -/
structure Told (b : Resource.Backend) (report : Resource.Condition.Report) (st : Status) :
    Prop where
  tells : st.Tells b.metadata.generation report
  others : st.conditions.eraseP (·.kind == report.kind) =
    (b.status.getD .empty).conditions.eraseP (·.kind == report.kind)

variable {stored : σ → Option Status}

theorem Tries.keeps (h : Tries store b t u s calls s') (hkeeps : KeepsStatus store stored calls) :
    stored s' = stored s := by
  cases h with
  | nothing => rfl
  | attach | detach => exact hkeeps.kept _ _ List.mem_cons_self rfl

theorem Writes.shows {r : Except PassError Unit}
    (h : Writes store b (draft now b report) t u s calls r s')
    (hkeeps : KeepsStatus store stored calls) (hstored : stored s = b.status) :
    r = .ok () ∧ ∃ st, stored s' = some st ∧ Told b report st := by
  cases h with
  | same pending =>
    have hno : (draft now b report).hasChanges = false := by
      simpa [Resource.StatusDraft.pending] using pending
    obtain ⟨st, hst, htells⟩ := Resource.StatusDraft.tells_of_not_hasChanges hno
    exact ⟨rfl, st, hstored.trans hst, htells, by rw [hst]; rfl⟩
  | @written status pending =>
    obtain rfl : (draft now b report).current = status := by
      simp only [Resource.StatusDraft.pending, Option.ite_none_right_eq_some,
        Option.some.injEq] at pending
      exact pending.2
    obtain ⟨haccepted, hwritten⟩ := hkeeps.written _ _ _ List.mem_cons_self
    rw [haccepted]
    exact ⟨rfl, _, hwritten, Resource.StatusDraft.tells_report ..,
      Resource.Conditions.eraseP_put ..⟩

theorem Tells.shows {r : Except PassError Unit}
    (h : Tells store now b report t u s remark calls r s')
    (hkeeps : KeepsStatus store stored calls) (hstored : stored s = b.status) :
    r = .ok () ∧ ∃ st, stored s' = some st ∧ Told b report st := by
  cases h with
  | quiet status => exact status.shows hkeeps hstored
  | event remark status =>
    have hevent := hkeeps.kept _ _ List.mem_cons_self rfl
    exact status.shows (hkeeps.mono fun x hx => List.mem_cons_of_mem _ hx)
      (hevent.trans hstored)

/-! ## What a pass leaves -/

/-- The condition says what came of a pass over the resource. -/
def SaysOf (b : Resource.Backend) (torn : Bool) (cond : Resource.Condition) :
    Except PassError PassOutcome → Prop
  | .ok (.synced _) => cond.status = "True" ∧ cond.reason = some "ReconcileCompleted" ∧
      cond.message = some ("Backend " ++ b.spec.name ++ " synchronized")
  | .ok .absent => False
  | .ok .finalized => False
  | .error e => cond.status = "False" ∧ cond.reason = some e.reason ∧
      cond.message = some ((if torn then "teardown failed: " else "") ++ e.conditionMessage)

theorem saysOf_agreement {torn : Bool} {cond : Resource.Condition} {changes : SyncReport}
    (h : cond.Says (agreement b)) : SaysOf b torn cond (.ok (.synced changes)) :=
  ⟨h.status, h.reason, h.message⟩

theorem saysOf_failure {torn : Bool} {cond : Resource.Condition} {e : PassError}
    (h : cond.Says (failure e.reason (lament torn e).message)) : SaysOf b torn cond (.error e) := by
  refine ⟨h.status, h.reason, h.message.trans ?_⟩
  cases torn with
  | true => rfl
  | false => exact congrArg some String.empty_append.symm

/-- How a pass over a resource that remains ends, as far as the store keeps the status. -/
theorem Concludes.shows {r : Except PassError PassOutcome}
    (h : Concludes store plane now c b u s calls r w') (hkeeps : KeepsStatus store stored calls)
    (hstored : stored s = b.status) :
    remarks calls = remarksOf (failsTeardown plane c b u) r ∧ (statuses calls).length ≤ 1 ∧
      ∃ st report, stored w'.1 = some st ∧ report.kind = conditionKind ∧ Told b report st ∧
        ∀ cond : Resource.Condition, cond.Says report →
          SaysOf b (failsTeardown plane c b u) cond r := by
  cases h with
  | @synced changes _ _ _ _ _ calls₁ calls₂ tries tells =>
    have htried := tries.keeps (hkeeps.mono fun x hx => List.mem_append_left _ hx)
    obtain ⟨rfl, st, hst, htold⟩ := tells.shows
      (hkeeps.mono fun x hx => List.mem_append_right _ hx) (htried.trans hstored)
    obtain ⟨hremarks, hstatuses⟩ := tries.untold
    rw [remarks_append, statuses_append, hremarks, hstatuses, tells.told.1]
    refine ⟨?_, tells.told.2, st, _, hst, rfl, htold, fun cond => saysOf_agreement⟩
    cases hchanges : changes.hasChanges <;> simp [remarksOf, Except.map, hchanges]
  | @failed e _ _ _ _ _ calls₁ calls₂ tries tells =>
    have htried := tries.keeps (hkeeps.mono fun x hx => List.mem_append_left _ hx)
    obtain ⟨_, st, hst, htold⟩ := tells.shows
      (hkeeps.mono fun x hx => List.mem_append_right _ hx) (htried.trans hstored)
    obtain ⟨hremarks, hstatuses⟩ := tries.untold
    rw [remarks_append, statuses_append, hremarks, hstatuses, tells.told.1]
    exact ⟨rfl, tells.told.2, st, _, hst, rfl, htold, fun cond => saysOf_failure⟩

/-- The status and the events tell of the result of a pass. -/
structure Reflects (plane : Environment DataPlane.interface υ) (c : DataPlane.Client)
    (b : Resource.Backend) (stored : σ → Option Status) (p : Seen σ τ υ) : Prop where
  /-- The stored status is for the generation that the pass saw, and its first condition of the
  reported type says what came of the pass. -/
  status : ∃ st cond, stored p.after.1 = some st ∧
    st.observedGeneration = b.metadata.generation ∧
    Resource.Conditions.find? st.conditions "ReconcilingComplete" = some cond ∧
    SaysOf b (failsTeardown plane c b p.before.2.2) cond p.result
  /-- All other conditions are kept, in order. -/
  others : ∀ st, stored p.after.1 = some st →
    st.conditions.eraseP (·.kind == "ReconcilingComplete") =
      (b.status.getD .empty).conditions.eraseP (·.kind == "ReconcilingComplete")
  /-- A pass that failed gives one warning, and no other does. -/
  warned : (remarks p.calls).countP (·.kind = .warning) = if p.result.isOk then 0 else 1
  /-- It is announced that the resource was synced, if anything was changed. -/
  announced : (∃ r ∈ remarks p.calls, r.kind = .normal ∧ r.reason = "Synced") ↔
    ∃ report, p.result = .ok (.synced report) ∧ report.hasChanges = true
  /-- The status is written once at most. -/
  once : (statuses p.calls).length ≤ 1

theorem lament_kind (torn : Bool) (e : PassError) : (lament torn e).kind = .warning := by
  cases torn <;> rfl

theorem warned_remarksOf (torn : Bool) (r : Except PassError PassOutcome) :
    (remarksOf torn r).countP (·.kind = .warning) = if r.isOk then 0 else 1 := by
  rcases r with e | _ | report | _
  · simp [remarksOf, lament_kind, Except.isOk, Except.toBool]
  · rfl
  · cases h : report.hasChanges <;> simp [remarksOf, h, Except.isOk, Except.toBool]
  · rfl

theorem announced_remarksOf (torn : Bool) (r : Except PassError PassOutcome) :
    (∃ x ∈ remarksOf torn r, x.kind = .normal ∧ x.reason = "Synced") ↔
      ∃ report, r = .ok (.synced report) ∧ report.hasChanges = true := by
  rcases r with e | _ | report | _
  · simp [remarksOf, lament_kind]
  · simp [remarksOf]
  · cases h : report.hasChanges <;> simp [remarksOf, h]
  · simp [remarksOf]

/-- Whatever the look-ups, the Data Plane and the store answer, a pass over a resource that is to
stay, or whose finalization fails, is told of, as long as the store keeps the status. -/
theorem status_reflects {key : Key} {index : ServiceIndex} {p : Seen σ τ υ}
    (hp : see store members plane c key now index (s, t, u) = p)
    (hread : store (.get key) s = (.ok (some b), s₁)) (hstored : stored s = b.status)
    (hremains : b.isDeleting = false ∨ b.hasFinalizer = true ∧ ∃ e, p.result = .error e)
    (hkeeps : KeepsStatus store stored p.calls) : Reflects plane c b stored p := by
  subst hp
  obtain ⟨told, hcalls, hconcludes⟩ :=
    (goes_reconcile (goes_run store members plane (reconcile now c key) index (s, t, u))).2 b s₁
      hread hremains
  have hcalls' : (see store members plane c key now index (s, t, u)).calls =
      ((s, t, u), .get key) :: told := hcalls
  rw [hcalls'] at hkeeps
  have hopened : stored s₁ = b.status := by
    have hget := hkeeps.kept _ _ List.mem_cons_self rfl
    rw [hread] at hget
    exact hget.trans hstored
  obtain ⟨hremarks, hstatuses, st, report, hst, hkind, htold, hsays⟩ :=
    hconcludes.shows (hkeeps.mono fun x hx => List.mem_cons_of_mem _ hx) hopened
  have hpublished : remarks (see store members plane c key now index (s, t, u)).calls =
      remarksOf (failsTeardown plane c b u)
        (see store members plane c key now index (s, t, u)).result := by
    rw [hcalls']
    exact hremarks
  obtain ⟨hgeneration, cond, hfind, hcond⟩ := htold.tells
  rw [hkind] at hfind
  refine ⟨⟨st, cond, hst, hgeneration, hfind, hsays cond hcond⟩, fun st' hst' => ?_, ?_, ?_, ?_⟩
  · cases hst.symm.trans hst'
    have hothers := htold.others
    rwa [hkind] at hothers
  · rw [hpublished]
    exact warned_remarksOf _ _
  · rw [hpublished]
    exact announced_remarksOf _ _
  · rw [hcalls']
    exact hstatuses

/-- A store of one resource, of which only the status changes. -/
def ledger (b : Resource.Backend) : Environment Store.interface (Option Status)
  | .get _, st => (.ok (some { b with status := st }), st)
  | .addFinalizer _, st => (.error "conflict", st)
  | .removeFinalizer _, st => (.error "conflict", st)
  | .patchStatus _ status, _ => (.ok (), some status)
  | .publish .., st => ((), st)

theorem keepsStatus_ledger (calls : List ((Option Status × τ × υ) × Store.Call)) :
    KeepsStatus (ledger b) id calls where
  written _ _ _ _ := ⟨rfl, rfl⟩
  kept _ call _ hcall := by
    cases call with
    | patchStatus => cases hcall
    | get | addFinalizer | removeFinalizer | publish => rfl

/-- A case of it: the backend of a resource that was synced before and is now being deleted cannot
be removed. -/
theorem status_reflects_failed_teardown :
    let key : Key := ⟨"default", "web"⟩
    let other : Resource.Condition := ⟨"Available", "True", none, none, none⟩
    let earlier : Status :=
      { conditions := [⟨"ReconcilingComplete", "True", some "ReconcileCompleted",
          some "Backend shop synchronized", some "2024-04-30T00:00:00Z"⟩, other]
        observedGeneration := some 1 }
    let b : Resource.Backend :=
      { metadata := { name := some "web", ns := some "default", generation := some 2
                      deletionTimestamp := some ⟨0⟩
                      finalizers := some [Resource.Backend.finalizer] }
        spec := shopSpec, status := some earlier }
    let c := DataPlane.Client.onThisHost 5555 "admin" "secret"
    let p := see (ledger b) (fun call t => (Simulation.Members.empty.lookUp call, t)) unreachable c
      key "2024-05-01T00:00:00Z" .empty (some earlier, (), ())
    ledger b (.get key) (some earlier) = (.ok (some b), some earlier) ∧
    (b.isDeleting = false ∨ b.hasFinalizer = true ∧ ∃ e, p.result = .error e) ∧
    KeepsStatus (ledger b) id p.calls ∧ Reflects unreachable c b id p ∧
    p.after.1 = some
      { conditions := [⟨"ReconcilingComplete", "False", some "DataPlaneUnreachable",
          some ("teardown failed: Cannot connect to the Data Plane API " ++
            "(network error or timeout)"), some "2024-05-01T00:00:00Z"⟩, other]
        observedGeneration := some 2 } := by
  intro key other earlier b c p
  have hfailed : ∃ e, p.result = .error e := by
    have hresult : p.result.isOk = false := by decide +kernel
    cases hp : p.result with
    | error e => exact ⟨e, rfl⟩
    | ok _ =>
      rw [hp] at hresult
      cases hresult
  have hremains : b.isDeleting = false ∨ b.hasFinalizer = true ∧ ∃ e, p.result = .error e :=
    .inr ⟨by decide, hfailed⟩
  have hkeeps := keepsStatus_ledger (b := b) p.calls
  exact ⟨rfl, hremains, hkeeps, status_reflects rfl rfl rfl hremains hkeeps, by decide +kernel⟩

end ProxySync.Pass
