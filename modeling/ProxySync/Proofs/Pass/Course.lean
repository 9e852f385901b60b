import ProxySync.Proofs.Pass.Partners
/-!
# The course of a pass

What a pass asks of its partners, how it ends and the states it leaves: one case for each way it can
go.

## Main definitions

* `Pass.Synchronizes`: how far a resource is validated, resolved and applied.
* `Pass.Tells`: an event and a status.
* `Pass.Course`: the ways a whole pass can go.
* `Pass.Concludes`: how it ends over a resource which remains.

## Main statements

* `Pass.goes_reconcile`, `Pass.course_reconcile`: every pass goes one of these ways.
* `Pass.Course.preserves`: what a pass leaves of the Data Plane.
-/
namespace ProxySync.Pass
variable {α σ τ υ : Type} {store : Environment Store.interface σ}
  {members : Environment Membership.interface τ} {plane : Environment DataPlane.interface υ}
  {w w' : σ × τ × υ} {calls : List ((σ × τ × υ) × Store.Call)}
  {asked : List (Exchange DataPlane.interface)} {s : σ} {t : τ} {u : υ}

/-! ## Calls of the store -/

variable {b : Resource.Backend} {d : Resource.StatusDraft}

/-- Events and statuses about a resource, while the other partners rest. -/
inductive Notes (store : Environment Store.interface σ) (b : Resource.Backend) (t : τ) (u : υ) :
    σ → List ((σ × τ × υ) × Store.Call) → σ → Prop
  | nil (s : σ) : Notes store b t u s [] s
  | event {s s' : σ} {calls : List ((σ × τ × υ) × Store.Call)} (remark : Remark)
      (h : Notes store b t u (store (.publish b remark) s).2 calls s') :
      Notes store b t u s (((s, t, u), .publish b remark) :: calls) s'
  | status {s s' : σ} {calls : List ((σ × τ × υ) × Store.Call)} (status : Resource.Status)
      (h : Notes store b t u (store (.patchStatus b status) s).2 calls s') :
      Notes store b t u s (((s, t, u), .patchStatus b status) :: calls) s'

/-- What neither an event nor a status ends is not ended by notes. -/
theorem Notes.preserves {P : σ → Prop} {s s' : σ} (h : Notes store b t u s calls s')
    (hevent : ∀ remark s, P s → P (store (.publish b remark) s).2)
    (hstatus : ∀ status s, P s → P (store (.patchStatus b status) s).2) (hs : P s) : P s' := by
  induction h with
  | nil => exact hs
  | event remark _ ih => exact ih (hevent remark _ hs)
  | status status _ ih => exact ih (hstatus status _ hs)

/-- A status is written where it says something new. -/
inductive Writes (store : Environment Store.interface σ) (b : Resource.Backend)
    (d : Resource.StatusDraft) (t : τ) (u : υ) (s : σ) :
    List ((σ × τ × υ) × Store.Call) → Except PassError Unit → σ → Prop
  | same (pending : d.pending = none) : Writes store b d t u s [] (.ok ()) s
  | written {status : Resource.Status} (pending : d.pending = some status) :
      Writes store b d t u s [((s, t, u), .patchStatus b status)]
        ((store (.patchStatus b status) s).1.mapError .kubernetes)
        (store (.patchStatus b status) s).2

/-- The finalizer is asked for unless it is there. -/
inductive Attaches (store : Environment Store.interface σ) (b : Resource.Backend) (t : τ) (u : υ)
    (s : σ) : List ((σ × τ × υ) × Store.Call) → Except PassError Unit → σ → Prop
  | there (attached : b.hasFinalizer = true) : Attaches store b t u s [] (.ok ()) s
  | asked (missing : b.hasFinalizer = false) :
      Attaches store b t u s [((s, t, u), .addFinalizer b)]
        ((store (.addFinalizer b) s).1.mapError .addFinalizer) (store (.addFinalizer b) s).2

theorem Attaches.of_error {e : PassError} {s' : σ}
    (h : Attaches store b t u s calls (.error e) s') :
    ∃ cause, b.hasFinalizer = false ∧ store (.addFinalizer b) s = (.error cause, s') ∧
      e = .addFinalizer cause ∧ calls = [((s, t, u), .addFinalizer b)] := by
  generalize hr : (Except.error e : Except PassError Unit) = r at h
  cases h with
  | there => cases hr
  | asked missing =>
    cases ha : (store (.addFinalizer b) s).1 with
    | ok _ =>
      rw [ha] at hr
      cases hr
    | error cause =>
      rw [ha] at hr
      cases hr
      exact ⟨cause, missing, Prod.ext ha rfl, rfl, rfl⟩

theorem Attaches.of_ok {s' : σ} (h : Attaches store b t u s calls (.ok ()) s') :
    (b.hasFinalizer = true ∧ calls = [] ∧ s' = s) ∨
      b.hasFinalizer = false ∧ store (.addFinalizer b) s = (.ok (), s') ∧
        calls = [((s, t, u), .addFinalizer b)] := by
  generalize hr : (Except.ok () : Except PassError Unit) = r at h
  cases h with
  | there attached => exact .inl ⟨attached, rfl, rfl⟩
  | asked missing =>
    cases ha : (store (.addFinalizer b) s).1 with
    | ok _ => exact .inr ⟨missing, Prod.ext ha rfl, rfl⟩
    | error cause =>
      rw [ha] at hr
      cases hr

theorem Writes.of_ok {s' : σ} (h : Writes store b d t u s calls (.ok ()) s') :
    (d.pending = none ∧ calls = [] ∧ s' = s) ∨
      ∃ status, d.pending = some status ∧ store (.patchStatus b status) s = (.ok (), s') := by
  generalize hr : (Except.ok () : Except PassError Unit) = r at h
  cases h with
  | same pending => exact .inl ⟨pending, rfl, rfl⟩
  | @written status pending =>
    cases ha : (store (.patchStatus b status) s).1 with
    | ok _ => exact .inr ⟨status, pending, Prod.ext ha rfl⟩
    | error cause =>
      rw [ha] at hr
      cases hr

theorem Writes.notes {r : Except PassError Unit} {s' : σ}
    (h : Writes store b d t u s calls r s') : Notes store b t u s calls s' := by
  cases h with
  | same => exact .nil s
  | written => exact .status _ (.nil _)

/-- An event, if there is one, and then a status. -/
inductive Tells (store : Environment Store.interface σ) (now : String) (b : Resource.Backend)
    (report : Resource.Condition.Report) (t : τ) (u : υ) (s : σ) :
    Option Remark → List ((σ × τ × υ) × Store.Call) → Except PassError Unit → σ → Prop
  | quiet {calls : List ((σ × τ × υ) × Store.Call)} {r : Except PassError Unit} {s' : σ}
      (status : Writes store b (draft now b report) t u s calls r s') :
      Tells store now b report t u s none calls r s'
  | event {calls : List ((σ × τ × υ) × Store.Call)} {r : Except PassError Unit} {s' : σ}
      (remark : Remark)
      (status : Writes store b (draft now b report) t u (store (.publish b remark) s).2
        calls r s') :
      Tells store now b report t u s (some remark) (((s, t, u), .publish b remark) :: calls) r s'

theorem Tells.notes {now : String} {report : Resource.Condition.Report} {remark : Option Remark}
    {r : Except PassError Unit} {s' : σ} (h : Tells store now b report t u s remark calls r s') :
    Notes store b t u s calls s' := by
  cases h with
  | quiet status => exact status.notes
  | event remark status => exact .event remark status.notes

theorem goes_publish_bind {kind : EventKind} {reason message : String} {f : Unit → PassM α}
    {r : Except PassError α}
    (h : Goes store members plane (publish b kind reason message >>= f) (s, t, u) calls asked r
      w') :
    ∃ calls', calls = ((s, t, u), .publish b ⟨kind, reason, message⟩) :: calls' ∧
      Goes store members plane (f ()) ((store (.publish b ⟨kind, reason, message⟩) s).2, t, u)
        calls' asked r w' :=
  goes_ask_bind (by rwa [publish, bind_assoc] at h)

theorem goes_writeStatus {r : Except PassError Unit}
    (h : Goes store members plane (writeStatus b d) (s, t, u) calls asked r w') :
    ∃ s', asked = [] ∧ w' = (s', t, u) ∧ Writes store b d t u s calls r s' := by
  rw [writeStatus] at h
  cases hp : d.pending with
  | none =>
    rw [hp] at h
    obtain ⟨rfl, rfl, rfl, rfl⟩ := goes_pure h
    exact ⟨s, rfl, rfl, .same hp⟩
  | some status =>
    rw [hp] at h
    obtain ⟨_, rfl, hdone⟩ := goes_ask_bind h
    have hwritten : Writes store b d t u s _ _ _ := .written hp
    cases ha : (store (.patchStatus b status) s).1 with
    | ok _ =>
      rw [ha] at hdone hwritten
      obtain ⟨rfl, rfl, rfl, rfl⟩ := goes_pure hdone
      exact ⟨_, rfl, rfl, hwritten⟩
    | error cause =>
      rw [ha] at hdone hwritten
      obtain ⟨rfl, rfl, rfl, rfl⟩ := goes_throw hdone
      exact ⟨_, rfl, rfl, hwritten⟩

theorem goes_attachFinalizer {r : Except PassError Unit}
    (h : Goes store members plane (attachFinalizer b) (s, t, u) calls asked r w') :
    ∃ s', asked = [] ∧ w' = (s', t, u) ∧ Attaches store b t u s calls r s' := by
  rw [attachFinalizer] at h
  cases hb : b.hasFinalizer with
  | true =>
    rw [if_pos hb] at h
    obtain ⟨rfl, rfl, rfl, rfl⟩ := goes_pure h
    exact ⟨s, rfl, rfl, .there hb⟩
  | false =>
    rw [if_neg (Bool.eq_false_iff.1 hb)] at h
    obtain ⟨_, rfl, hdone⟩ := goes_ask_bind h
    have hasked : Attaches store b t u s _ _ _ := .asked hb
    cases ha : (store (.addFinalizer b) s).1 with
    | ok _ =>
      rw [ha] at hdone hasked
      obtain ⟨rfl, rfl, rfl, rfl⟩ := goes_pure hdone
      exact ⟨_, rfl, rfl, hasked⟩
    | error cause =>
      rw [ha] at hdone hasked
      obtain ⟨rfl, rfl, rfl, rfl⟩ := goes_throw hdone
      exact ⟨_, rfl, rfl, hasked⟩

/-- A status that may fail to be written. -/
theorem goes_tryStatus {r : Except PassError Unit}
    (h : Goes store members plane (tryCatch (writeStatus b d) fun _ => pure ()) (s, t, u) calls
      asked r w') :
    ∃ r₀ s', asked = [] ∧ r = .ok () ∧ w' = (s', t, u) ∧ Writes store b d t u s calls r₀ s' := by
  obtain ⟨_, rfl, hwrite⟩ | ⟨_, _, _, _, _, _, rfl, rfl, hwrite, hdone⟩ := goes_tryCatch h
  · obtain ⟨s', rfl, rfl, hwrites⟩ := goes_writeStatus hwrite
    exact ⟨_, s', rfl, rfl, rfl, hwrites⟩
  · obtain ⟨s', rfl, rfl, hwrites⟩ := goes_writeStatus hwrite
    obtain ⟨rfl, rfl, rfl, rfl⟩ := goes_pure hdone
    exact ⟨_, s', rfl, rfl, rfl, by simpa using hwrites⟩

theorem goes_recordFailure {now eventReason message : String} {e : PassError}
    {r : Except PassError Unit}
    (h : Goes store members plane (recordFailure now b e eventReason message) (s, t, u) calls asked
      r w') :
    ∃ r₀ s', asked = [] ∧ r = .ok () ∧ w' = (s', t, u) ∧
      Tells store now b (failure e.reason message) t u s (some ⟨.warning, eventReason, message⟩)
        calls r₀ s' := by
  obtain ⟨_, rfl, hstatus⟩ := goes_publish_bind h
  obtain ⟨_, s', rfl, rfl, rfl, hwrites⟩ := goes_tryStatus hstatus
  exact ⟨_, s', rfl, rfl, rfl, .event _ hwrites⟩

/-! ## Synchronizing -/

variable {c : DataPlane.Client} {key : Key}

/-- A resource is validated, resolved and applied, as far as that goes. -/
inductive Synchronizes (members : Environment Membership.interface τ)
    (plane : Environment DataPlane.interface υ) (c : DataPlane.Client) (key : Key)
    (b : Resource.Backend) (t : τ) (u : υ) :
    List (Exchange DataPlane.interface) → Except PassError SyncReport → τ → υ → Prop
  | invalid {e : PassError} (validate : b.spec.validate key.ns = .error e) :
      Synchronizes members plane c key b t u [] (.error e) t u
  | unresolved {desired : Desired} {e : PassError} {t' : τ}
      (validate : b.spec.validate key.ns = .ok desired)
      (resolve : desired.resolve.run.run members t = (.error e, t')) :
      Synchronizes members plane c key b t u [] (.error e) t' u
  | applied {desired : Desired} {d : Resolved} {t' : τ}
      (validate : b.spec.validate key.ns = .ok desired)
      (resolve : desired.resolve.run.run members t = (.ok d, t')) :
      Synchronizes members plane c key b t u (((c.apply d).start .fresh).trace plane u)
        ((((c.apply d).start .fresh).run plane u).1.1.mapError .client) t'
        (((c.apply d).start .fresh).run plane u).2

theorem goes_synchronize {r : Except PassError SyncReport}
    (h : Goes store members plane (synchronize c key b) (s, t, u) calls asked r w') :
    ∃ t' u', calls = [] ∧ w' = (s, t', u') ∧
      Synchronizes members plane c key b t u asked r t' u' := by
  rw [synchronize] at h
  cases hv : b.spec.validate key.ns with
  | error e =>
    rw [hv] at h
    obtain ⟨rfl, rfl, rfl, rfl⟩ := goes_throw (goes_modify_bind h)
    exact ⟨t, u, rfl, rfl, .invalid hv⟩
  | ok desired =>
    rw [hv] at h
    rcases hr : desired.resolve.run.run members t with ⟨r₀, t'⟩
    obtain ⟨_, _, _, _, d, _, rfl, rfl, hresolve, hsession⟩ | ⟨e, rfl, hresolve⟩ :=
      goes_bind (goes_modify_bind h)
    · obtain ⟨rfl, rfl, hd, rfl⟩ := goes_resolving hresolve
      obtain ⟨rfl, rfl, rfl, rfl⟩ := goes_inSession hsession
      rw [hr] at hd ⊢
      cases hd
      exact ⟨t', _, rfl, rfl, .applied hv hr⟩
    · obtain ⟨rfl, rfl, he, rfl⟩ := goes_resolving hresolve
      rw [hr] at he ⊢
      cases he
      exact ⟨t', u, rfl, rfl, .unresolved hv hr⟩

theorem goes_settle {r : Except PassError SyncReport}
    (h : Goes store members plane (settle c key b) (s, t, u) calls asked r w') :
    ∃ t' u' r₀, Synchronizes members plane c key b t u asked r₀ t' u' ∧
      ((∃ e, r₀ = .error e ∧ r = .error e ∧ calls = [] ∧ w' = (s, t', u')) ∨
        ∃ report r₁ s', r₀ = .ok report ∧ Attaches store b t' u' s calls r₁ s' ∧
          r = r₁.map (fun _ => report) ∧ w' = (s', t', u')) := by
  obtain ⟨_, _, _, _, report, _, rfl, rfl, hfirst, h⟩ | ⟨e, rfl, hfirst⟩ := goes_bind h
  · obtain ⟨t', u', rfl, rfl, hsync⟩ := goes_synchronize hfirst
    obtain ⟨_, _, _, _, _, _, rfl, rfl, hlast, hdone⟩ | ⟨e, rfl, hlast⟩ := goes_bind h
    · obtain ⟨s', rfl, rfl, hattach⟩ := goes_attachFinalizer hlast
      obtain ⟨rfl, rfl, rfl, rfl⟩ := goes_pure hdone
      rw [List.append_nil, List.append_nil]
      exact ⟨t', u', _, hsync, .inr ⟨report, _, s', rfl, by simpa using hattach, rfl, rfl⟩⟩
    · obtain ⟨s', rfl, rfl, hattach⟩ := goes_attachFinalizer hlast
      rw [List.append_nil]
      exact ⟨t', u', _, hsync, .inr ⟨report, _, s', rfl, hattach, rfl, rfl⟩⟩
  · obtain ⟨t', u', rfl, rfl, hsync⟩ := goes_synchronize hfirst
    exact ⟨t', u', _, hsync, .inl ⟨e, rfl, rfl, rfl, rfl⟩⟩

theorem goes_observing {x : PassM α} {r : Except PassError (Except PassError α)}
    (h : Goes store members plane (sync.observing x) w calls asked r w') :
    ∃ r₀, r = .ok r₀ ∧ Goes store members plane x w calls asked r₀ w' := by
  rw [sync.observing, map_eq_pure_bind] at h
  obtain ⟨_, rfl, hvalue⟩ | ⟨_, _, _, _, e, _, rfl, rfl, hvalue, hdone⟩ := goes_tryCatch h
  · obtain ⟨_, _, _, _, a, _, rfl, rfl, hx, hdone⟩ | ⟨_, he, _⟩ := goes_bind hvalue
    · obtain ⟨rfl, rfl, hr, rfl⟩ := goes_pure hdone
      cases hr
      exact ⟨.ok a, rfl, by simpa using hx⟩
    · cases he
  · obtain ⟨rfl, rfl, rfl, rfl⟩ := goes_pure hdone
    obtain ⟨_, _, _, _, _, _, rfl, rfl, _, hdone⟩ | ⟨_, he, hx⟩ := goes_bind hvalue
    · cases (goes_pure hdone).2.2.1
    · cases he
      exact ⟨.error e, rfl, by simpa using hx⟩

/-! ## Whole passes -/

/-- What is said of a pass that agreed: an event if anything was changed, and the status. -/
inductive Reports (store : Environment Store.interface σ) (now : String) (b : Resource.Backend)
    (report : SyncReport) (t : τ) (u : υ) (s : σ) :
    List ((σ × τ × υ) × Store.Call) → Except PassError Unit → σ → Prop
  | quiet {calls : List ((σ × τ × υ) × Store.Call)} {r : Except PassError Unit} {s' : σ}
      (unchanged : report.hasChanges = false)
      (status : Writes store b (draft now b (agreement b)) t u s calls r s') :
      Reports store now b report t u s calls r s'
  | event {calls : List ((σ × τ × υ) × Store.Call)} {r : Except PassError Unit} {s' : σ}
      (changed : report.hasChanges = true)
      (status : Writes store b (draft now b (agreement b)) t u
        (store (.publish b ⟨.normal, "Synced", report.summary⟩) s).2 calls r s') :
      Reports store now b report t u s
        (((s, t, u), .publish b ⟨.normal, "Synced", report.summary⟩) :: calls) r s'

theorem Reports.tells {now : String} {report : SyncReport} {r : Except PassError Unit} {s' : σ}
    (h : Reports store now b report t u s calls r s') :
    Tells store now b (agreement b) t u s
      (if report.hasChanges then some ⟨.normal, "Synced", report.summary⟩ else none)
      calls r s' := by
  cases h with
  | quiet unchanged status =>
    rw [unchanged]
    exact .quiet status
  | event changed status =>
    rw [changed]
    exact .event _ status

theorem Reports.notes {now : String} {report : SyncReport} {r : Except PassError Unit} {s' : σ}
    (h : Reports store now b report t u s calls r s') : Notes store b t u s calls s' :=
  h.tells.notes

/-- The ways a pass can go: what it calls, what it asks of the Data Plane, how it ends and the
states it leaves. -/
inductive Course (store : Environment Store.interface σ)
    (members : Environment Membership.interface τ) (plane : Environment DataPlane.interface υ)
    (now : String) (c : DataPlane.Client) (key : Key) (s : σ) (t : τ) (u : υ) :
    List ((σ × τ × υ) × Store.Call) → List (Exchange DataPlane.interface) →
    Except PassError PassOutcome → σ × τ × υ → Prop
  /-- The resource could not be read. -/
  | unread {cause : String} {s₁ : σ} (read : store (.get key) s = (.error cause, s₁)) :
      Course store members plane now c key s t u [((s, t, u), .get key)] []
        (.error (.kubernetes cause)) (s₁, t, u)
  /-- There is no such resource. -/
  | absent {s₁ : σ} (read : store (.get key) s = (.ok none, s₁)) :
      Course store members plane now c key s t u [((s, t, u), .get key)] [] (.ok .absent) (s₁, t, u)
  /-- The resource is being deleted and does not carry the finalizer. -/
  | released {b : Resource.Backend} {s₁ : σ} (read : store (.get key) s = (.ok (some b), s₁))
      (deleting : b.isDeleting = true) (free : b.hasFinalizer = false) :
      Course store members plane now c key s t u [((s, t, u), .get key)] [] (.ok .finalized)
        (s₁, t, u)
  /-- The backend could not be removed. -/
  | kept {b : Resource.Backend} {s₁ s₂ : σ} {e : ClientError} {session : Session} {u' : υ}
      {notes : List ((σ × τ × υ) × Store.Call)}
      (read : store (.get key) s = (.ok (some b), s₁))
      (deleting : b.isDeleting = true) (held : b.hasFinalizer = true)
      (teardown : ((c.teardown b.spec.name).start .fresh).run plane u = ((.error e, session), u'))
      (noted : Notes store b t u' s₁ notes s₂) :
      Course store members plane now c key s t u (((s, t, u), .get key) :: notes)
        (((c.teardown b.spec.name).start .fresh).trace plane u) (.error (.client e)) (s₂, t, u')
  /-- The backend was removed, but the finalizer could not be. -/
  | undetached {b : Resource.Backend} {s₁ s₂ s₃ : σ} {cause : String} {session : Session} {u' : υ}
      {notes : List ((σ × τ × υ) × Store.Call)}
      (read : store (.get key) s = (.ok (some b), s₁))
      (deleting : b.isDeleting = true) (held : b.hasFinalizer = true)
      (teardown : ((c.teardown b.spec.name).start .fresh).run plane u = ((.ok (), session), u'))
      (detach : store (.removeFinalizer b) s₁ = (.error cause, s₂))
      (noted : Notes store b t u' s₂ notes s₃) :
      Course store members plane now c key s t u
        (((s, t, u), .get key) :: ((s₁, t, u'), .removeFinalizer b) :: notes)
        (((c.teardown b.spec.name).start .fresh).trace plane u) (.error (.removeFinalizer cause))
        (s₃, t, u')
  /-- The backend and the finalizer were removed. -/
  | finalized {b : Resource.Backend} {s₁ s₂ s₃ : σ} {session : Session} {u' : υ}
      {notes : List ((σ × τ × υ) × Store.Call)}
      (read : store (.get key) s = (.ok (some b), s₁))
      (deleting : b.isDeleting = true) (held : b.hasFinalizer = true)
      (teardown : ((c.teardown b.spec.name).start .fresh).run plane u = ((.ok (), session), u'))
      (detach : store (.removeFinalizer b) s₁ = (.ok (), s₂))
      (noted : Notes store b t u' s₂ notes s₃) :
      Course store members plane now c key s t u
        (((s, t, u), .get key) :: ((s₁, t, u'), .removeFinalizer b) :: notes)
        (((c.teardown b.spec.name).start .fresh).trace plane u) (.ok .finalized) (s₃, t, u')
  /-- The resource could not be synchronized. -/
  | failed {b : Resource.Backend} {s₁ s₂ : σ} {e : PassError} {t' : τ} {u' : υ}
      {asked : List (Exchange DataPlane.interface)} {notes : List ((σ × τ × υ) × Store.Call)}
      (read : store (.get key) s = (.ok (some b), s₁)) (staying : b.isDeleting = false)
      (synchronize : Synchronizes members plane c key b t u asked (.error e) t' u')
      (noted : Notes store b t' u' s₁ notes s₂) :
      Course store members plane now c key s t u (((s, t, u), .get key) :: notes) asked (.error e)
        (s₂, t', u')
  /-- The resource was synchronized, but the finalizer could not be attached. -/
  | unattached {b : Resource.Backend} {s₁ s₂ s₃ : σ} {report : SyncReport} {cause : String}
      {t' : τ} {u' : υ} {asked : List (Exchange DataPlane.interface)}
      {notes : List ((σ × τ × υ) × Store.Call)}
      (read : store (.get key) s = (.ok (some b), s₁)) (staying : b.isDeleting = false)
      (synchronize : Synchronizes members plane c key b t u asked (.ok report) t' u')
      (missing : b.hasFinalizer = false)
      (attach : store (.addFinalizer b) s₁ = (.error cause, s₂))
      (noted : Notes store b t' u' s₂ notes s₃) :
      Course store members plane now c key s t u
        (((s, t, u), .get key) :: ((s₁, t', u'), .addFinalizer b) :: notes) asked
        (.error (.addFinalizer cause)) (s₃, t', u')
  /-- The resource was synchronized and carries the finalizer; the status may not be written. -/
  | settled {b : Resource.Backend} {s₁ s₂ s₃ : σ} {report : SyncReport} {r : Except PassError Unit}
      {t' : τ} {u' : υ} {asked : List (Exchange DataPlane.interface)}
      {calls₁ calls₂ : List ((σ × τ × υ) × Store.Call)}
      (read : store (.get key) s = (.ok (some b), s₁)) (staying : b.isDeleting = false)
      (synchronize : Synchronizes members plane c key b t u asked (.ok report) t' u')
      (attach : Attaches store b t' u' s₁ calls₁ (.ok ()) s₂)
      (reports : Reports store now b report t' u' s₂ calls₂ r s₃) :
      Course store members plane now c key s t u (((s, t, u), .get key) :: (calls₁ ++ calls₂))
        asked (r.map fun _ => .synced report) (s₃, t', u')

/-- The resource is being deleted and its backend cannot be removed. -/
def failsTeardown (plane : Environment DataPlane.interface υ) (c : DataPlane.Client)
    (b : Resource.Backend) (u : υ) : Bool :=
  b.isDeleting && !(((c.teardown b.spec.name).start .fresh).run plane u).1.1.isOk

/-- The event of a pass that failed. -/
def lament (torn : Bool) (e : PassError) : Remark :=
  if torn then ⟨.warning, "TeardownFailed", "teardown failed: " ++ e.conditionMessage⟩
  else ⟨.warning, e.reason, e.conditionMessage⟩

/-- The finalizer is asked for, asked away or left alone. -/
inductive Tries (store : Environment Store.interface σ) (b : Resource.Backend) (t : τ) (u : υ)
    (s : σ) : List ((σ × τ × υ) × Store.Call) → σ → Prop
  | nothing : Tries store b t u s [] s
  | attach : Tries store b t u s [((s, t, u), .addFinalizer b)] (store (.addFinalizer b) s).2
  | detach : Tries store b t u s [((s, t, u), .removeFinalizer b)] (store (.removeFinalizer b) s).2

theorem Attaches.tries {r : Except PassError Unit} {s' : σ}
    (h : Attaches store b t u s calls r s') : Tries store b t u s calls s' := by
  cases h with
  | there => exact .nothing
  | asked => exact .attach

/-- How a pass ends that is over a resource which remains: the last thing that it does is to tell of
its result. -/
inductive Concludes (store : Environment Store.interface σ)
    (plane : Environment DataPlane.interface υ) (now : String) (c : DataPlane.Client)
    (b : Resource.Backend) (u : υ) (s : σ) :
    List ((σ × τ × υ) × Store.Call) → Except PassError PassOutcome → σ × τ × υ → Prop
  | synced {report : SyncReport} {t' : τ} {u' : υ} {s₂ s₃ : σ} {r : Except PassError Unit}
      {calls₁ calls₂ : List ((σ × τ × υ) × Store.Call)}
      (tries : Tries store b t' u' s calls₁ s₂)
      (tells : Tells store now b (agreement b) t' u' s₂
        (if report.hasChanges then some ⟨.normal, "Synced", report.summary⟩ else none)
        calls₂ r s₃) :
      Concludes store plane now c b u s (calls₁ ++ calls₂) (r.map fun _ => .synced report)
        (s₃, t', u')
  | failed {e : PassError} {t' : τ} {u' : υ} {s₂ s₃ : σ} {r : Except PassError Unit}
      {calls₁ calls₂ : List ((σ × τ × υ) × Store.Call)}
      (tries : Tries store b t' u' s calls₁ s₂)
      (tells : Tells store now b
        (failure e.reason (lament (failsTeardown plane c b u) e).message) t' u' s₂
        (some (lament (failsTeardown plane c b u) e)) calls₂ r s₃) :
      Concludes store plane now c b u s (calls₁ ++ calls₂) (.error e) (s₃, t', u')

theorem goes_getBackend {r : Except PassError (Option Resource.Backend)}
    (h : Goes store members plane (getBackend key) (s, t, u) calls asked r w') :
    calls = [((s, t, u), .get key)] ∧ asked = [] ∧
      r = (store (.get key) s).1.mapError .kubernetes ∧ w' = ((store (.get key) s).2, t, u) := by
  obtain ⟨_, rfl, hnext⟩ := goes_ask_bind h
  cases hread : (store (.get key) s).1 with
  | ok found =>
    rw [hread] at hnext
    obtain ⟨rfl, rfl, rfl, rfl⟩ := goes_pure hnext
    exact ⟨rfl, rfl, rfl, rfl⟩
  | error cause =>
    rw [hread] at hnext
    obtain ⟨rfl, rfl, rfl, rfl⟩ := goes_throw hnext
    exact ⟨rfl, rfl, rfl, rfl⟩

theorem goes_removeRemote {now : String} {r : Except PassError Unit}
    (h : Goes store members plane (removeRemote now c b) (s, t, u) calls asked r w') :
    ∃ r₀ session u' s', ((c.teardown b.spec.name).start .fresh).run plane u =
        ((r₀, session), u') ∧ r = r₀.mapError .client ∧
      asked = ((c.teardown b.spec.name).start .fresh).trace plane u ∧ w' = (s', t, u') ∧
      (r₀ = .ok () → calls = [] ∧ s' = s) ∧
      ∀ e, r₀ = .error e → ∃ r₁, Tells store now b
        (failure (PassError.client e).reason (lament true (.client e)).message) t u' s
        (some (lament true (.client e))) calls r₁ s' := by
  rcases hrun : ((c.teardown b.spec.name).start .fresh).run plane u with ⟨⟨r₀, session⟩, u'⟩
  obtain ⟨_, rfl, hsession⟩ | ⟨_, _, _, _, e, _, rfl, rfl, hsession, h⟩ := goes_tryCatch h
  · obtain ⟨rfl, rfl, hr, rfl⟩ := goes_inSession hsession
    rw [hrun] at hr ⊢
    refine ⟨r₀, session, u', s, rfl, hr, rfl, rfl, fun _ => ⟨rfl, rfl⟩, ?_⟩
    rintro e rfl
    cases hr
  · obtain ⟨rfl, rfl, hr, rfl⟩ := goes_inSession hsession
    rw [hrun] at hr h
    obtain ⟨_, _, _, _, _, _, rfl, rfl, hrecord, hthrow⟩ | ⟨_, rfl, hrecord⟩ := goes_bind h
    · obtain ⟨_, s', rfl, _, rfl, htells⟩ := goes_recordFailure hrecord
      obtain ⟨rfl, rfl, rfl, rfl⟩ := goes_throw hthrow
      refine ⟨r₀, session, u', s', rfl, hr, by simp, rfl, ?_, ?_⟩
      · rintro rfl
        cases hr
      · rintro e rfl
        cases hr
        rw [List.append_nil]
        exact ⟨_, htells⟩
    · obtain ⟨_, _, _, hok, _⟩ := goes_recordFailure hrecord
      cases hok

theorem goes_detachFinalizer {now : String} {r : Except PassError Unit}
    (h : Goes store members plane (detachFinalizer now b) (s, t, u) calls asked r w') :
    ∃ notes s', calls = ((s, t, u), .removeFinalizer b) :: notes ∧ asked = [] ∧
      r = (store (.removeFinalizer b) s).1.mapError .removeFinalizer ∧ w' = (s', t, u) ∧
      (r = .ok () → notes = [] ∧ s' = (store (.removeFinalizer b) s).2) ∧
      ∀ e, r = .error e → ∃ r₁, Tells store now b (failure e.reason (lament false e).message) t u
        (store (.removeFinalizer b) s).2 (some (lament false e)) notes r₁ s' := by
  obtain ⟨_, rfl, hnext⟩ := goes_ask_bind h
  cases hdetach : (store (.removeFinalizer b) s).1 with
  | ok _ =>
    rw [hdetach] at hnext
    obtain ⟨rfl, rfl, rfl, rfl⟩ := goes_pure hnext
    exact ⟨[], _, rfl, rfl, rfl, rfl, fun _ => ⟨rfl, rfl⟩, nofun⟩
  | error cause =>
    rw [hdetach] at hnext
    obtain ⟨_, _, _, _, _, _, rfl, rfl, hrecord, hthrow⟩ | ⟨_, rfl, hrecord⟩ := goes_bind hnext
    · obtain ⟨_, s', rfl, _, rfl, htells⟩ := goes_recordFailure hrecord
      obtain ⟨rfl, rfl, rfl, rfl⟩ := goes_throw hthrow
      refine ⟨_, s', rfl, rfl, rfl, rfl, nofun, ?_⟩
      rintro e ⟨⟩
      rw [List.append_nil]
      exact ⟨_, htells⟩
    · obtain ⟨_, _, _, hok, _⟩ := goes_recordFailure hrecord
      cases hok

section
variable {now : String} {s₁ : σ} {r : Except PassError PassOutcome}

/-- The end of a pass after which the resource may go. -/
theorem goes_farewell {kind : EventKind} {reason message : String}
    (h : Goes store members plane (do
        forget key
        publish b kind reason message
        return .finalized) (s, t, u) calls asked r w') :
    ∃ s', asked = [] ∧ r = .ok .finalized ∧ Notes store b t u s calls s' ∧ w' = (s', t, u) := by
  obtain ⟨_, rfl, hdone⟩ := goes_publish_bind (goes_modify_bind h)
  obtain ⟨rfl, rfl, rfl, rfl⟩ := goes_pure hdone
  exact ⟨_, rfl, rfl, .event _ (.nil _), rfl⟩

/-- The end of a pass that failed. -/
theorem goes_lament {e : PassError}
    (h : Goes store members plane (do
        publish b .warning e.reason e.conditionMessage
        tryCatch (writeStatus b (draft now b (failure e.reason e.conditionMessage)))
          fun _ => pure ()
        throw e) (s, t, u) calls asked r w') :
    ∃ r₀ s', asked = [] ∧ r = .error e ∧ w' = (s', t, u) ∧
      Tells store now b (failure e.reason (lament false e).message) t u s (some (lament false e))
        calls r₀ s' := by
  obtain ⟨_, rfl, hrest⟩ := goes_publish_bind h
  obtain ⟨_, _, _, _, _, _, rfl, rfl, hstatus, hthrow⟩ | ⟨_, _, hstatus⟩ := goes_bind hrest
  · obtain ⟨r₀, s', rfl, _, rfl, hwrites⟩ := goes_tryStatus hstatus
    obtain ⟨rfl, rfl, rfl, rfl⟩ := goes_throw hthrow
    refine ⟨r₀, s', rfl, rfl, rfl, .event _ ?_⟩
    rwa [List.append_nil]
  · obtain ⟨_, _, _, hok, _⟩ := goes_tryStatus hstatus
    cases hok

/-- The end of a pass that agreed. -/
theorem goes_praise {report : SyncReport}
    (h : Goes store members plane (do
        if report.hasChanges then publish b .normal "Synced" report.summary
        writeStatus b (draft now b (agreement b))
        return .synced report) (s, t, u) calls asked r w') :
    ∃ r₀ s', asked = [] ∧ r = r₀.map (fun _ => .synced report) ∧ w' = (s', t, u) ∧
      Reports store now b report t u s calls r₀ s' := by
  have hlast {s : σ} {calls : List ((σ × τ × υ) × Store.Call)}
      {asked : List (Exchange DataPlane.interface)}
      (h : Goes store members plane (do
        writeStatus b (draft now b (agreement b))
        return .synced report) (s, t, u) calls asked r w') :
      ∃ r₀ s', asked = [] ∧ r = r₀.map (fun _ => .synced report) ∧ w' = (s', t, u) ∧
        Writes store b (draft now b (agreement b)) t u s calls r₀ s' := by
    obtain ⟨_, _, _, _, _, _, rfl, rfl, hstatus, hdone⟩ | ⟨_, rfl, hstatus⟩ := goes_bind h
    · obtain ⟨s', rfl, rfl, hwrites⟩ := goes_writeStatus hstatus
      obtain ⟨rfl, rfl, rfl, rfl⟩ := goes_pure hdone
      exact ⟨_, s', rfl, rfl, rfl, by simpa using hwrites⟩
    · obtain ⟨s', rfl, rfl, hwrites⟩ := goes_writeStatus hstatus
      exact ⟨_, s', rfl, rfl, rfl, hwrites⟩
  cases hchanged : report.hasChanges with
  | true =>
    simp only [hchanged, if_true] at h
    obtain ⟨_, rfl, hrest⟩ := goes_publish_bind h
    obtain ⟨r₀, s', rfl, rfl, rfl, hwrites⟩ := hlast hrest
    exact ⟨r₀, s', rfl, rfl, rfl, .event hchanged hwrites⟩
  | false =>
    simp only [hchanged, Bool.false_eq_true, if_false] at h
    obtain ⟨r₀, s', rfl, rfl, rfl, hwrites⟩ := hlast h
    exact ⟨r₀, s', rfl, rfl, rfl, .quiet hchanged hwrites⟩

theorem goes_finalize (read : store (.get key) s = (.ok (some b), s₁))
    (deleting : b.isDeleting = true)
    (h : Goes store members plane (finalize now c key b) (s₁, t, u) calls asked r w') :
    Course store members plane now c key s t u (((s, t, u), .get key) :: calls) asked r w' ∧
      (b.hasFinalizer = true → (∃ e, r = .error e) →
        Concludes store plane now c b u s₁ calls r w') := by
  rw [finalize] at h
  cases hheld : b.hasFinalizer with
  | false =>
    rw [if_neg (Bool.eq_false_iff.1 hheld)] at h
    have hdone := goes_modify_bind h
    obtain ⟨rfl, rfl, rfl, rfl⟩ := goes_pure hdone
    exact ⟨.released read deleting hheld, nofun⟩
  | true =>
    rw [if_pos hheld] at h
    obtain ⟨_, _, _, _, _, _, rfl, rfl, hremote, hrest⟩ | ⟨e, rfl, hremote⟩ := goes_bind h
    · obtain ⟨r₀, session, u', s', hteardown, hr, rfl, rfl, hquiet, _⟩ := goes_removeRemote hremote
      obtain rfl : r₀ = .ok () := by cases r₀ with
        | ok _ => rfl
        | error e => cases hr
      obtain ⟨rfl, rfl⟩ := hquiet rfl
      have htorn : failsTeardown plane c b u = false := by
        rw [failsTeardown, hteardown]
        exact Bool.and_false _
      obtain ⟨_, _, _, _, _, _, rfl, rfl, hdetach, hlast⟩ | ⟨e, rfl, hdetach⟩ := goes_bind hrest
      · obtain ⟨notes, s₂, rfl, rfl, hr₂, rfl, hnone, _⟩ := goes_detachFinalizer hdetach
        obtain ⟨rfl, rfl⟩ := hnone rfl
        have hok : (store (.removeFinalizer b) s').1 = .ok () := by
          cases hd : (store (.removeFinalizer b) s').1 with
          | ok _ => rfl
          | error cause =>
            rw [hd] at hr₂
            cases hr₂
        obtain ⟨_, rfl, rfl, hnotes, rfl⟩ := goes_farewell hlast
        rw [List.append_nil, List.append_nil]
        exact ⟨.finalized read deleting hheld hteardown (Prod.ext hok rfl) hnotes, nofun⟩
      · obtain ⟨notes, s₂, rfl, rfl, hr₂, rfl, _, hlament⟩ := goes_detachFinalizer hdetach
        obtain ⟨_, htells⟩ := hlament e rfl
        cases hd : (store (.removeFinalizer b) s').1 with
        | ok _ =>
          rw [hd] at hr₂
          cases hr₂
        | error cause =>
          rw [hd] at hr₂
          cases hr₂
          rw [List.append_nil]
          refine ⟨.undetached read deleting hheld hteardown (Prod.ext hd rfl) htells.notes,
            fun _ _ => ?_⟩
          rw [← htorn] at htells
          have hconcludes := Concludes.failed (.detach (s := s')) htells
          exact hconcludes
    · obtain ⟨r₀, session, u', s', hteardown, hr, rfl, rfl, _, hlament⟩ :=
        goes_removeRemote hremote
      cases r₀ with
      | ok _ => cases hr
      | error e =>
        cases hr
        obtain ⟨_, htells⟩ := hlament e rfl
        have htorn : failsTeardown plane c b u = true := by
          rw [failsTeardown, hteardown, deleting]
          rfl
        refine ⟨.kept read deleting hheld hteardown htells.notes, fun _ _ => ?_⟩
        rw [← htorn] at htells
        exact .failed .nothing htells

theorem goes_sync (read : store (.get key) s = (.ok (some b), s₁))
    (staying : b.isDeleting = false)
    (h : Goes store members plane (sync now c key b) (s₁, t, u) calls asked r w') :
    Course store members plane now c key s t u (((s, t, u), .get key) :: calls) asked r w' ∧
      Concludes store plane now c b u s₁ calls r w' := by
  have htorn : failsTeardown plane c b u = false := by
    rw [failsTeardown, staying]
    rfl
  rw [sync] at h
  obtain ⟨_, _, _, _, r₀, _, rfl, rfl, hobserve, hrest⟩ | ⟨_, _, hobserve⟩ := goes_bind h
  · obtain ⟨_, hr, hsettle⟩ := goes_observing hobserve
    cases hr
    obtain ⟨t', u', _, hsync, ⟨e, rfl, rfl, rfl, rfl⟩ | ⟨report, r₁, s₂, rfl, hattach, rfl, rfl⟩⟩ :=
      goes_settle hsettle
    · obtain ⟨_, _, rfl, rfl, rfl, htells⟩ := goes_lament hrest
      rw [List.append_nil]
      refine ⟨.failed read staying hsync htells.notes, ?_⟩
      rw [← htorn] at htells
      exact .failed .nothing htells
    · cases r₁ with
      | error e =>
        have htries := hattach.tries
        obtain ⟨cause, hmissing, hadd, rfl, rfl⟩ := hattach.of_error
        obtain ⟨_, _, rfl, rfl, rfl, htells⟩ := goes_lament hrest
        rw [List.append_nil]
        refine ⟨.unattached read staying hsync hmissing hadd htells.notes, ?_⟩
        rw [← htorn] at htells
        exact .failed htries htells
      | ok _ =>
        obtain ⟨r₂, s₃, rfl, rfl, rfl, hreports⟩ := goes_praise hrest
        rw [List.append_nil]
        exact ⟨.settled read staying hsync hattach hreports, .synced hattach.tries hreports.tells⟩
  · obtain ⟨_, hr, _⟩ := goes_observing hobserve
    cases hr

theorem goes_reconcile
    (h : Goes store members plane (reconcile now c key) (s, t, u) calls asked r w') :
    Course store members plane now c key s t u calls asked r w' ∧
      ∀ b s₁, store (.get key) s = (.ok (some b), s₁) →
        (b.isDeleting = false ∨ b.hasFinalizer = true ∧ ∃ e, r = .error e) →
        ∃ told, calls = ((s, t, u), .get key) :: told ∧
          Concludes store plane now c b u s₁ told r w' := by
  rw [reconcile] at h
  obtain ⟨_, _, _, _, found, _, rfl, rfl, hget, hrest⟩ | ⟨e, rfl, hget⟩ := goes_bind h
  · obtain ⟨rfl, rfl, hr, rfl⟩ := goes_getBackend hget
    have hread : store (.get key) s = (.ok found, (store (.get key) s).2) := by
      cases hd : (store (.get key) s).1 with
      | ok found' =>
        rw [hd] at hr
        cases hr
        exact Prod.ext hd rfl
      | error cause =>
        rw [hd] at hr
        cases hr
    cases found with
    | none =>
      have hdone := goes_modify_bind (f := (·.remove key)) (g := fun _ => pure PassOutcome.absent)
        hrest
      obtain ⟨rfl, rfl, rfl, rfl⟩ := goes_pure hdone
      refine ⟨.absent hread, fun b s₁ hb => ?_⟩
      rw [hread] at hb
      cases hb
    | some b =>
      cases hb : b.isDeleting with
      | true =>
        simp only [hb, if_true] at hrest
        obtain ⟨hcourse, hconcludes⟩ := goes_finalize hread hb hrest
        refine ⟨hcourse, fun b' s₁ hb' hremains => ?_⟩
        cases hread.symm.trans hb'
        rw [hb] at hremains
        obtain ⟨hheld, hfailed⟩ := hremains.resolve_left nofun
        exact ⟨_, rfl, hconcludes hheld hfailed⟩
      | false =>
        simp only [hb, Bool.false_eq_true, if_false] at hrest
        obtain ⟨hcourse, hconcludes⟩ := goes_sync hread hb hrest
        refine ⟨hcourse, fun b' s₁ hb' _ => ?_⟩
        cases hread.symm.trans hb'
        exact ⟨_, rfl, hconcludes⟩
  · obtain ⟨rfl, rfl, hr, rfl⟩ := goes_getBackend hget
    cases hd : (store (.get key) s).1 with
    | ok found =>
      rw [hd] at hr
      cases hr
    | error cause =>
      rw [hd] at hr
      cases hr
      refine ⟨.unread (Prod.ext hd rfl), fun b s₁ hb => ?_⟩
      rw [hb] at hd
      cases hd

end

variable (store members plane) in
/-- Every pass goes one of these ways. -/
theorem course_reconcile (now : String) (c : DataPlane.Client) (key : Key) (index : ServiceIndex)
    (s : σ) (t : τ) (u : υ) :
    Course store members plane now c key s t u
      (storeCalls ((start (reconcile now c key) index).history (beside store members plane)
        (s, t, u)))
      (planeExchanges ((start (reconcile now c key) index).history (beside store members plane)
        (s, t, u)))
      ((start (reconcile now c key) index).run (beside store members plane) (s, t, u)).1.1
      ((start (reconcile now c key) index).run (beside store members plane) (s, t, u)).2 :=
  (goes_reconcile (goes_run store members plane (reconcile now c key) index (s, t, u))).1

theorem course_of_run {now : String} {index index' : ServiceIndex}
    {r : Except PassError PassOutcome}
    (h : (start (reconcile now c key) index).run (beside store members plane) (s, t, u) =
      ((r, index'), w')) :
    ∃ calls asked, Course store members plane now c key s t u calls asked r w' := by
  have hcourse := course_reconcile store members plane now c key index s t u
  rw [h] at hcourse
  exact ⟨_, _, hcourse⟩

/-- What no request to the Data Plane ends is not ended by a pass. -/
theorem Course.preserves {P : υ → Prop} {now : String} {r : Except PassError PassOutcome}
    (h : Course store members plane now c key s t u calls asked r w')
    (hplane : ∀ call u, P u → P (plane call u).2) (hu : P u) : P w'.2.2 := by
  have hrun {α : Type} (x : SessionM α) : P ((x.start .fresh).run plane u).2 :=
    Dialogue.run_preserves hplane _ hu
  have hteardown {r name u'} (h : ((c.teardown name).start .fresh).run plane u = (r, u')) :
      P u' := by
    have hkept := hrun (c.teardown name)
    rwa [h] at hkept
  have hsync {b asked r t' u'} (h : Synchronizes members plane c key b t u asked r t' u') :
      P u' := by
    cases h with
    | invalid | unresolved => exact hu
    | applied => exact hrun _
  cases h with
  | unread | absent | released => exact hu
  | kept _ _ _ teardown | undetached _ _ _ teardown | finalized _ _ _ teardown =>
    exact hteardown teardown
  | failed _ _ synchronize | unattached _ _ synchronize | settled _ _ synchronize =>
    exact hsync synchronize

end ProxySync.Pass
