import ProxySync.Proofs.Pass.Lookups
import ProxySync.Proofs.Pass.Quiet
/-!
# What a pass notes of the Services

Of all the steps of a pass only those that validate, give up or forget a resource touch the index of
Services, and only its resolution looks any up.

## Main definitions

* `Pass.lookedUp`: the Services looked up in the course of a step.
* `Pass.IsAside`: a step that neither looks up a Service nor touches the index.

## Main statements

* `Pass.index_sync`, `Pass.index_synchronize`: a pass over a resource that is to stay.
* `Pass.index_finalize`: a pass over a resource that is being deleted.
* `Pass.run_reconcile`, `Pass.lookedUp_reconcile`: a pass goes on with what it read.
-/
namespace ProxySync.Pass
variable {α β σ : Type} {env : Environment interface σ} {index : ServiceIndex} {w : σ}
  {c : DataPlane.Client} {key : Key} {b : Resource.Backend} {now : String}

/-! ## Steps that leave the index alone -/

/-- The Service that a call of a pass looks up. -/
def Call.lookedUp? : Call → Option Key
  | .store _ => none
  | .membership q => q.service?
  | .plane _ => none

/-- The Services looked up in the course of a step. -/
def lookedUp (env : Environment interface σ) (x : PassM α) (index : ServiceIndex) (w : σ) :
    List Key :=
  ((start x index).trace env w).filterMap (·.call.lookedUp?)

theorem run_start_bind (x : PassM α) (f : α → PassM β) :
    (start (x >>= f) index).run env w = match (start x index).run env w with
      | ((.ok a, index'), w') => (start (f a) index').run env w'
      | ((.error e, index'), w') => ((.error e, index'), w') := by
  rw [start_bind, Dialogue.run_bind]
  rcases (start x index).run env w with ⟨⟨_ | _, _⟩, _⟩ <;> rfl

theorem lookedUp_bind (x : PassM α) (f : α → PassM β) :
    lookedUp env (x >>= f) index w = lookedUp env x index w ++
      match (start x index).run env w with
      | ((.ok a, index'), w') => lookedUp env (f a) index' w'
      | ((.error _, _), _) => [] := by
  rw [lookedUp, start_bind, Dialogue.trace_bind, List.filterMap_append]
  rcases (start x index).run env w with ⟨⟨_ | _, _⟩, _⟩ <;> rfl

/-- The step neither looks up a Service nor touches the index. -/
def IsAside (env : Environment interface σ) (x : PassM α) : Prop :=
  ∀ index w, ((start x index).run env w).1.2 = index ∧ lookedUp env x index w = []

theorem isAside_pure (a : α) : IsAside env (pure a) := fun _ _ => ⟨rfl, rfl⟩

theorem isAside_throw (e : PassError) : IsAside env (throw e : PassM α) := fun _ _ => ⟨rfl, rfl⟩

theorem isAside_ask (call : Store.Call) : IsAside env (ask call) := fun _ _ => ⟨rfl, rfl⟩

theorem IsAside.bind {x : PassM α} {f : α → PassM β} (hx : IsAside env x)
    (hf : ∀ a, IsAside env (f a)) : IsAside env (x >>= f) := by
  intro index w
  obtain ⟨hindex, hlooked⟩ := hx index w
  rw [run_start_bind, lookedUp_bind, hlooked]
  revert hindex
  rcases (start x index).run env w with ⟨⟨_ | a, index'⟩, w'⟩
  · exact fun hindex => ⟨hindex, rfl⟩
  · rintro rfl
    exact hf a index' w'

theorem IsAside.tryCatch {x : PassM α} {f : PassError → PassM α} (hx : IsAside env x)
    (hf : ∀ e, IsAside env (f e)) : IsAside env (tryCatch x f) := by
  intro index w
  obtain ⟨hindex, hlooked⟩ := hx index w
  rw [lookedUp, start_tryCatch, Dialogue.trace_bind, Dialogue.run_bind, List.filterMap_append]
  rw [lookedUp] at hlooked
  rw [hlooked]
  revert hindex
  rcases (start x index).run env w with ⟨⟨e | _, index'⟩, w'⟩
  · rintro rfl
    exact hf e index' w'
  · exact fun hindex => ⟨hindex, rfl⟩

/-- A step of a session is one with the Data Plane. -/
theorem isAside_inSession (x : SessionM α) : IsAside env (inSession x) := by
  have hsession {γ : Type} (d : Dialogue DataPlane.interface γ) (w : σ) :
      ((d.embed viaPlane).trace env w).filterMap (·.call.lookedUp?) = [] := by
    induction d generalizing w with
    | done a => rfl
    | ask call next ih => exact ih _ _
  intro index w
  rw [lookedUp, start_inSession, Dialogue.run_bind, Dialogue.trace_bind, List.filterMap_append,
    hsession]
  exact ⟨rfl, rfl⟩

theorem isAside_publish (b : Resource.Backend) (kind : EventKind) (reason message : String) :
    IsAside env (publish b kind reason message) :=
  (isAside_ask _).bind fun _ => isAside_pure _

theorem isAside_writeStatus (b : Resource.Backend) (d : Resource.StatusDraft) :
    IsAside env (writeStatus b d) := by
  rw [writeStatus]
  cases d.pending with
  | none => exact isAside_pure _
  | some status =>
    refine (isAside_ask _).bind fun r => ?_
    cases r with
    | ok _ => exact isAside_pure _
    | error cause => exact isAside_throw _

theorem isAside_tryStatus (b : Resource.Backend) (d : Resource.StatusDraft) :
    IsAside env (tryCatch (writeStatus b d) fun _ => pure ()) :=
  (isAside_writeStatus b d).tryCatch fun _ => isAside_pure _

theorem isAside_getBackend (key : Key) : IsAside env (getBackend key) := by
  refine (isAside_ask _).bind fun r => ?_
  cases r with
  | ok _ => exact isAside_pure _
  | error cause => exact isAside_throw _

theorem isAside_attachFinalizer (b : Resource.Backend) : IsAside env (attachFinalizer b) := by
  rw [attachFinalizer]
  split
  · exact isAside_pure _
  · refine (isAside_ask _).bind fun r => ?_
    cases r with
    | ok _ => exact isAside_pure _
    | error cause => exact isAside_throw _

theorem isAside_recordFailure (now : String) (b : Resource.Backend) (e : PassError)
    (eventReason message : String) : IsAside env (recordFailure now b e eventReason message) :=
  (isAside_publish _ _ _ _).bind fun _ => isAside_tryStatus _ _

theorem isAside_removeRemote (now : String) (c : DataPlane.Client) (b : Resource.Backend) :
    IsAside env (removeRemote now c b) :=
  (isAside_inSession _).tryCatch fun _ =>
    (isAside_recordFailure _ _ _ _ _).bind fun _ => isAside_throw _

theorem isAside_detachFinalizer (now : String) (b : Resource.Backend) :
    IsAside env (detachFinalizer now b) := by
  refine (isAside_ask _).bind fun r => ?_
  cases r with
  | ok _ => exact isAside_pure _
  | error cause => exact (isAside_recordFailure _ _ _ _ _).bind fun _ => isAside_throw _

/-- After a step aside the next one goes on with the same index. -/
theorem IsAside.run_bind {x : PassM α} (hx : IsAside env x) (f : α → PassM β)
    (index : ServiceIndex) (w : σ) :
    (start (x >>= f) index).run env w = match (start x index).run env w with
      | ((.ok a, _), w') => (start (f a) index).run env w'
      | ((.error e, _), w') => ((.error e, index), w') := by
  have hindex := (hx index w).1
  rw [run_start_bind]
  revert hindex
  rcases (start x index).run env w with ⟨⟨_ | _, _⟩, _⟩ <;>
    · rintro rfl
      rfl

theorem IsAside.lookedUp_bind {x : PassM α} (hx : IsAside env x) (f : α → PassM β)
    (index : ServiceIndex) (w : σ) :
    lookedUp env (x >>= f) index w = match (start x index).run env w with
      | ((.ok a, _), w') => lookedUp env (f a) index w'
      | ((.error _, _), _) => [] := by
  obtain ⟨hindex, hlooked⟩ := hx index w
  rw [Pass.lookedUp_bind, hlooked, List.nil_append]
  revert hindex
  rcases (start x index).run env w with ⟨⟨_ | _, _⟩, _⟩ <;>
    · rintro rfl
      rfl

/-- What follows a step may be a step aside. -/
theorem IsAside.after {x : PassM α} {f : α → PassM β} (hf : ∀ a, IsAside env (f a))
    (index : ServiceIndex) (w : σ) :
    ((start (x >>= f) index).run env w).1.2 = ((start x index).run env w).1.2 ∧
      lookedUp env (x >>= f) index w = lookedUp env x index w := by
  rw [run_start_bind, Pass.lookedUp_bind]
  rcases (start x index).run env w with ⟨⟨_ | a, index'⟩, w'⟩
  · exact ⟨rfl, List.append_nil _⟩
  · obtain ⟨hindex, hlooked⟩ := hf a index' w'
    exact ⟨hindex, by simp only [hlooked, List.append_nil]⟩

/-! ## What a pass makes of the index -/

/-- The look-ups among the partners of a pass. -/
def lookUps (env : Environment interface σ) : Environment Membership.interface σ :=
  fun q w => env (.membership q) w

theorem lookedUp_resolving (x : ResolutionM α) (index : ServiceIndex) (w : σ) :
    lookedUp env (resolving x) index w = Resolution.asked (lookUps env) x w := by
  have hembed {γ : Type} (d : Dialogue Membership.interface γ) (w : σ) :
      ((d.embed viaMembership).trace env w).filterMap (·.call.lookedUp?) =
        (d.trace (lookUps env) w).filterMap (·.call.service?) := by
    induction d generalizing w with
    | done a => rfl
    | ask call next ih =>
      simp only [Dialogue.embed, Dialogue.trace_ask, List.filterMap_cons]
      rw [ih]
      rfl
  rw [lookedUp, start_resolving, Dialogue.trace_bind, List.filterMap_append, hembed]
  exact List.append_nil _

variable (env) in
/-- A resource is noted with its Services once it is found valid, and these are looked up. -/
theorem index_synchronize (c : DataPlane.Client) (key : Key) (b : Resource.Backend)
    (index : ServiceIndex) (w : σ) :
    (((start (synchronize c key b) index).run env w).1.2 =
      match b.spec.validate key.ns with
      | .ok desired => index.update key desired.serviceKeys
      | .error _ => index.remove key) ∧
    lookedUp env (synchronize c key b) index w =
      match b.spec.validate key.ns with
      | .ok desired => Resolution.asked (lookUps env) desired.resolve w
      | .error _ => [] := by
  rw [synchronize]
  cases b.spec.validate key.ns with
  | error e => exact ⟨rfl, rfl⟩
  | ok desired =>
    have happly (resolved : Resolved) : IsAside env (inSession (c.apply resolved)) :=
      isAside_inSession _
    have hlater := IsAside.after (x := resolving desired.resolve) happly
      (index.update key desired.serviceKeys) w
    refine ⟨hlater.1.trans ?_, hlater.2.trans (lookedUp_resolving ..)⟩
    rw [run_resolving]

/-- What is said of a pass that agreed. -/
theorem isAside_praise (now : String) (b : Resource.Backend) (report : SyncReport) :
    IsAside env (do
      if report.hasChanges then publish b .normal "Synced" report.summary
      writeStatus b (draft now b (agreement b))
      return PassOutcome.synced report) := by
  have hwrite : IsAside env (do
      writeStatus b (draft now b (agreement b))
      return PassOutcome.synced report) :=
    (isAside_writeStatus _ _).bind fun _ => isAside_pure _
  cases report.hasChanges with
  | true => exact (isAside_publish _ _ _ _).bind fun _ => hwrite
  | false => exact hwrite

/-- What is said of a pass that failed. -/
theorem isAside_lament (b : Resource.Backend) (d : Resource.StatusDraft) (e : PassError) :
    IsAside env (do
      publish b .warning e.reason e.conditionMessage
      tryCatch (writeStatus b d) fun _ => pure ()
      throw e : PassM PassOutcome) :=
  (isAside_publish _ _ _ _).bind fun _ => (isAside_tryStatus _ _).bind fun _ => isAside_throw _

variable (env) in
theorem index_sync (now : String) (c : DataPlane.Client) (key : Key) (b : Resource.Backend)
    (index : ServiceIndex) (w : σ) :
    ((start (sync now c key b) index).run env w).1.2 =
        ((start (synchronize c key b) index).run env w).1.2 ∧
      lookedUp env (sync now c key b) index w = lookedUp env (synchronize c key b) index w := by
  have hattach (report : SyncReport) :
      IsAside env (attachFinalizer b >>= fun _ => pure report) :=
    (isAside_attachFinalizer b).bind fun _ => isAside_pure report
  have hpure (report : SyncReport) :
      IsAside env (pure (.ok report) : PassM (Except PassError SyncReport)) :=
    isAside_pure _
  have hsettle := IsAside.after (x := synchronize c key b) hattach index w
  have hvalue := IsAside.after (x := settle c key b) hpure index w
  have hobserve : ((start (sync.observing (settle c key b)) index).run env w).1.2 =
        ((start (settle c key b) index).run env w).1.2 ∧
      lookedUp env (sync.observing (settle c key b)) index w =
        lookedUp env (settle c key b) index w := by
    rw [← hvalue.1, ← hvalue.2, lookedUp, lookedUp, sync.observing, map_eq_pure_bind,
      start_tryCatch, Dialogue.run_bind, Dialogue.trace_bind, List.filterMap_append]
    rcases (start (settle c key b >>= fun report => pure (Except.ok report)) index).run env w with
      ⟨⟨_ | _, _⟩, _⟩ <;> exact ⟨rfl, List.append_nil _⟩
  rw [sync]
  refine ⟨(IsAside.after ?told index w).1.trans (hobserve.1.trans hsettle.1),
    (IsAside.after ?told index w).2.trans (hobserve.2.trans hsettle.2)⟩
  intro r
  cases r with
  | ok report => exact isAside_praise now b report
  | error e => exact isAside_lament b _ e

variable (env) in
/-- A backend is forgotten once it is gone, and not before. -/
theorem index_finalize (now : String) (c : DataPlane.Client) (key : Key) (b : Resource.Backend)
    (index : ServiceIndex) (w : σ) :
    (((start (finalize now c key b) index).run env w).1.2 =
      match ((start (finalize now c key b) index).run env w).1.1 with
      | .ok _ => index.remove key
      | .error _ => index) ∧
    lookedUp env (finalize now c key b) index w = [] ∧
    (b.hasFinalizer = false →
      ((start (finalize now c key b) index).run env w).1.1 = .ok .finalized) := by
  rw [finalize]
  cases b.hasFinalizer with
  | false => exact ⟨rfl, rfl, fun _ => rfl⟩
  | true =>
    rw [if_pos rfl, (isAside_removeRemote now c b).run_bind,
      (isAside_removeRemote now c b).lookedUp_bind]
    rcases (start (removeRemote now c b) index).run env w with ⟨⟨_ | _, _⟩, w₁⟩
    · exact ⟨rfl, rfl, nofun⟩
    · dsimp only
      rw [(isAside_detachFinalizer now b).run_bind, (isAside_detachFinalizer now b).lookedUp_bind]
      rcases (start (detachFinalizer now b) index).run env w₁ with ⟨⟨_ | _, _⟩, w₂⟩
      · exact ⟨rfl, rfl, nofun⟩
      · exact ⟨rfl, rfl, nofun⟩

theorem run_getBackend (key : Key) (index : ServiceIndex) (w : σ) :
    (start (getBackend key) index).run env w =
      (((env (.store (.get key)) w).1.mapError .kubernetes, index),
        (env (.store (.get key)) w).2) := by
  have hask : (start (ask (.get key)) index).run env w =
      ((.ok (env (.store (.get key)) w).1, index), (env (.store (.get key)) w).2) := rfl
  rw [getBackend, run_start_bind, hask]
  dsimp only
  cases (env (.store (.get key)) w).1 <;> rfl

/-- A pass goes on with what it read. -/
theorem run_reconcile (now : String) (c : DataPlane.Client) (key : Key) (index : ServiceIndex)
    (w : σ) :
    (start (reconcile now c key) index).run env w = match env (.store (.get key)) w with
      | (.error cause, w₁) => ((.error (.kubernetes cause), index), w₁)
      | (.ok none, w₁) => ((.ok .absent, index.remove key), w₁)
      | (.ok (some b), w₁) =>
        (start (if b.isDeleting then finalize now c key b else sync now c key b) index).run env
          w₁ := by
  rw [reconcile, run_start_bind, run_getBackend]
  rcases env (.store (.get key)) w with ⟨_ | _ | b, w₁⟩ <;> rfl

theorem lookedUp_reconcile (now : String) (c : DataPlane.Client) (key : Key)
    (index : ServiceIndex) (w : σ) :
    lookedUp env (reconcile now c key) index w = match env (.store (.get key)) w with
      | (.error _, _) => []
      | (.ok none, _) => []
      | (.ok (some b), w₁) =>
        lookedUp env (if b.isDeleting then finalize now c key b else sync now c key b) index
          w₁ := by
  rw [reconcile, (isAside_getBackend key).lookedUp_bind, run_getBackend]
  rcases env (.store (.get key)) w with ⟨_ | _ | b, w₁⟩ <;> rfl

end ProxySync.Pass
