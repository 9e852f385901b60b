import ProxySync.Pass.Basic
/-!
# Passes that leave the Data Plane alone

A pass whose resource is not valid, or whose Services cannot be resolved, ends before it opens a
session. It still reports on the resource, but it asks nothing of the Data Plane.

## Main definitions

* `Pass.Quiet`: a step that asks nothing of the Data Plane.
* `Pass.Stops`: the resource is not valid or its Services cannot be resolved.

## Main statements

* `Pass.quiet_reconcile`: a pass that is stopped so is quiet.
-/
namespace ProxySync.Pass
variable {α β σ : Type} {env : Environment interface σ} {index : ServiceIndex} {w : σ}

/-- None of the exchanges is one with the Data Plane. -/
def AreQuiet (tr : List (Exchange interface)) : Prop := ∀ x ∈ tr, ∀ q, x.call ≠ .plane q

theorem areQuiet_nil : AreQuiet [] := by simp [AreQuiet]

theorem AreQuiet.append {tr₁ tr₂ : List (Exchange interface)} (h₁ : AreQuiet tr₁)
    (h₂ : AreQuiet tr₂) : AreQuiet (tr₁ ++ tr₂) :=
  fun x hx => (List.mem_append.1 hx).elim (h₁ x) (h₂ x)

/-- The step, run on the index in the environment, asks nothing of the Data Plane. -/
def Quiet (env : Environment interface σ) (x : PassM α) (index : ServiceIndex) (w : σ) : Prop :=
  AreQuiet ((start x index).trace env w)

/-! ## Steps one after the other -/

theorem start_bind (x : PassM α) (f : α → PassM β) (index : ServiceIndex) :
    start (x >>= f) index = (start x index >>= fun p => match p.1 with
      | .ok a => start (f a) p.2
      | .error e => .done (.error e, p.2)) := by
  refine congrArg (start x index >>= ·) (funext fun p => ?_)
  rcases p with ⟨_ | _, _⟩ <;> rfl

theorem start_tryCatch (x : PassM α) (f : PassError → PassM α) (index : ServiceIndex) :
    start (tryCatch x f) index = (start x index >>= fun p => match p.1 with
      | .ok a => .done (.ok a, p.2)
      | .error e => start (f e) p.2) := by
  refine congrArg (start x index >>= ·) (funext fun p => ?_)
  rcases p with ⟨_ | _, _⟩ <;> rfl

/-- A resolution leaves the index as it is. -/
theorem start_resolving (x : ResolutionM α) (index : ServiceIndex) :
    start (resolving x) index =
      (Dialogue.embed viaMembership x.run >>= fun r => pure (r, index)) :=
  rfl

/-- So does a session, which begins afresh. -/
theorem start_inSession (x : SessionM α) (index : ServiceIndex) :
    start (inSession x) index = (Dialogue.embed viaPlane (x.start .fresh) >>= fun p =>
      pure (p.1.mapError PassError.client, index)) :=
  Dialogue.bind_assoc (Dialogue.embed viaPlane (x.start .fresh)) (fun p => pure (p, index))
    fun q => pure (q.1.1.mapError PassError.client, q.2)

theorem quiet_pure (a : α) : Quiet env (pure a) index w := areQuiet_nil

theorem quiet_throw (e : PassError) : Quiet env (throw e : PassM α) index w := areQuiet_nil

theorem quiet_modify (g : ServiceIndex → ServiceIndex) :
    Quiet env (modify g : PassM PUnit) index w := areQuiet_nil

/-- What goes on from a result only has to be quiet there. -/
theorem Quiet.bind {x : PassM α} {f : α → PassM β} (hx : Quiet env x index w)
    (hf : ∀ a index' w', (start x index).run env w = ((.ok a, index'), w') →
      Quiet env (f a) index' w') : Quiet env (x >>= f) index w := by
  rw [Quiet, start_bind, Dialogue.trace_bind]
  refine hx.append ?_
  rcases hr : (start x index).run env w with ⟨⟨e | a, index'⟩, w'⟩
  · exact areQuiet_nil
  · exact hf a index' w' hr

theorem Quiet.tryCatch {x : PassM α} {f : PassError → PassM α} (hx : Quiet env x index w)
    (hf : ∀ e index' w', (start x index).run env w = ((.error e, index'), w') →
      Quiet env (f e) index' w') : Quiet env (tryCatch x f) index w := by
  rw [Quiet, start_tryCatch, Dialogue.trace_bind]
  refine hx.append ?_
  rcases hr : (start x index).run env w with ⟨⟨e | a, index'⟩, w'⟩
  · exact hf e index' w' hr
  · exact areQuiet_nil

/-! ## The partners but the Data Plane -/

theorem quiet_ask (call : Store.Call) : Quiet env (ask call) index w := by
  intro x hx q
  obtain rfl := List.mem_singleton.1 hx
  exact Call.noConfusion

/-- Look-ups are made of Kubernetes. -/
theorem areQuiet_embed (d : Dialogue Membership.interface α) (w : σ) :
    AreQuiet ((Dialogue.embed viaMembership d).trace env w) := by
  induction d generalizing w with
  | done a => exact areQuiet_nil
  | ask call next ih =>
    intro x hx q
    rcases List.mem_cons.1 hx with rfl | hx
    · exact Call.noConfusion
    · exact ih _ _ x hx q

theorem quiet_resolving (x : ResolutionM α) : Quiet env (resolving x) index w := by
  rw [Quiet, start_resolving, Dialogue.trace_bind]
  exact (areQuiet_embed _ w).append areQuiet_nil

theorem quiet_publish (b : Resource.Backend) (kind : EventKind) (reason message : String) :
    Quiet env (publish b kind reason message) index w :=
  (quiet_ask _).bind fun _ _ _ _ => quiet_pure _

theorem quiet_writeStatus (b : Resource.Backend) (d : Resource.StatusDraft) :
    Quiet env (writeStatus b d) index w := by
  rw [writeStatus]
  split
  · exact quiet_pure _
  · apply (quiet_ask _).bind
    intro r _ _ _
    cases r with
    | ok _ => exact quiet_pure _
    | error cause => exact quiet_throw _

/-! ## A pass that is stopped -/

/-- In the environment the resource is not valid, or its Services cannot be resolved. -/
def Stops (env : Environment interface σ) (key : Key) (b : Resource.Backend) (w : σ) : Prop :=
  match b.spec.validate key.ns with
  | .error _ => True
  | .ok desired =>
    ((Dialogue.embed viaMembership desired.resolve.run).run env w).1.isOk = false

/-- Partners that know of one resource and nothing else. -/
def knowing (b : Resource.Backend) : Environment interface Unit
  | .store (.get _), _ => (.ok (some b), ())
  | .store (.addFinalizer _), _ => (.ok (), ())
  | .store (.removeFinalizer _), _ => (.ok (), ())
  | .store (.patchStatus ..), _ => (.ok (), ())
  | .store (.publish ..), _ => ((), ())
  | .membership (.service _), _ => (.ok none, ())
  | .membership (.slices _), _ => (.ok [], ())
  | .membership (.pod _), _ => (.ok none, ())
  | .plane (.request _), _ => (.lost "no route", ())
  | .plane (.measure _), _ => ((), ())

variable {c : DataPlane.Client} {key : Key} {b : Resource.Backend}

theorem run_resolving (x : ResolutionM α) :
    (start (resolving x) index).run env w =
      ((((Dialogue.embed viaMembership x.run).run env w).1, index),
        ((Dialogue.embed viaMembership x.run).run env w).2) := by
  show (Dialogue.embed viaMembership x.run >>= fun r => pure (r, index)).run env w = _
  rw [Dialogue.run_bind]
  rfl

/-- A step whose result is an error is followed by nothing. -/
theorem isOk_bind {x : PassM α} (f : α → PassM β)
    (h : ((start x index).run env w).1.1.isOk = false) :
    ((start (x >>= f) index).run env w).1.1.isOk = false := by
  rw [start_bind, Dialogue.run_bind]
  revert h
  rcases (start x index).run env w with ⟨⟨e | a, index'⟩, w'⟩
  · exact fun _ => rfl
  · nofun

theorem Quiet.bind_of_failed {x : PassM α} (f : α → PassM β) (hx : Quiet env x index w)
    (h : ((start x index).run env w).1.1.isOk = false) : Quiet env (x >>= f) index w := by
  apply hx.bind
  intro a index' w' hr
  rw [hr] at h
  cases h

/-- A resource that is stopped is not applied, and nothing comes of that. -/
theorem Stops.synchronize (h : Stops env key b w) :
    Quiet env (synchronize c key b) index w ∧
      ((start (synchronize c key b) index).run env w).1.1.isOk = false := by
  rw [Pass.synchronize]
  rw [Stops] at h
  cases hv : b.spec.validate key.ns with
  | error e => exact ⟨(quiet_modify _).bind fun _ _ _ _ => quiet_throw _, rfl⟩
  | ok desired =>
    rw [hv] at h
    have hfailed (index : ServiceIndex) :
        ((start (resolving desired.resolve) index).run env w).1.1.isOk = false := by
      rw [run_resolving]
      exact h
    constructor
    · apply (quiet_modify _).bind
      intro _ index' w' hr
      obtain ⟨_, rfl⟩ := Prod.mk.inj hr
      exact (quiet_resolving _).bind_of_failed _ (hfailed index')
    · have hlater := isOk_bind (fun resolved => inSession (c.apply resolved))
        (hfailed (index.update key desired.serviceKeys))
      exact hlater

theorem Stops.settle (h : Stops env key b w) :
    Quiet env (settle c key b) index w ∧
      ((start (settle c key b) index).run env w).1.1.isOk = false :=
  ⟨h.synchronize.1.bind_of_failed _ h.synchronize.2, isOk_bind _ h.synchronize.2⟩

theorem quiet_sync {now : String} (h : Stops env key b w) :
    Quiet env (sync now c key b) index w := by
  have hobserved : Quiet env (sync.observing (settle c key b)) index w := by
    refine Quiet.tryCatch ?_ fun _ _ _ _ => quiet_pure _
    exact h.settle.1.bind_of_failed _ h.settle.2
  apply hobserved.bind
  intro r _ _ _
  cases r with
  | ok report =>
    simp only
    split
    · apply (quiet_publish _ _ _ _).bind
      intro _ _ _ _
      exact (quiet_writeStatus _ _).bind fun _ _ _ _ => quiet_pure _
    · exact (quiet_writeStatus _ _).bind fun _ _ _ _ => quiet_pure _
  | error e =>
    apply (quiet_publish _ _ _ _).bind
    intro _ _ _ _
    refine Quiet.bind ?_ fun _ _ _ _ => quiet_throw e
    exact (quiet_writeStatus _ _).tryCatch fun _ _ _ _ => quiet_pure _

/-- A pass over a resource that is stopped so asks nothing of the Data Plane. -/
theorem quiet_reconcile {now : String} {w' : σ}
    (hget : env (.store (.get key)) w = (.ok (some b), w')) (hstay : b.isDeleting = false)
    (h : Stops env key b w') : Quiet env (reconcile now c key) index w := by
  have hread : (start (getBackend key) index).run env w = ((.ok (some b), index), w') := by
    have hask : (start (ask (.get key)) index).run env w = ((.ok (.ok (some b)), index), w') := by
      show ((Except.ok (env (.store (.get key)) w).1, index), (env (.store (.get key)) w).2) = _
      rw [hget]
      rfl
    rw [getBackend, start_bind, Dialogue.run_bind, hask]
    rfl
  refine Quiet.bind ?_ fun found index' w₁ hr => ?_
  · apply (quiet_ask _).bind
    intro r _ _ _
    cases r with
    | ok b => exact quiet_pure _
    | error cause => exact quiet_throw _
  · obtain ⟨⟨⟨⟩, rfl⟩, rfl⟩ := hread.symm.trans hr
    simp only [hstay]
    exact quiet_sync h

end ProxySync.Pass
