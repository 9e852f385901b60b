import ProxySync.Proofs.Session.Stages
/-!
# The life of a transaction

A pass reads the version, opens one transaction on it, makes its configuration requests inside and
closes it exactly once. Whatever the Data Plane replies, no other list of requests is sent.

## Main definitions

* `Lifecycle.Ending`: the requests that close a transaction, and whether the pass ends well.
* `Lifecycle`: the requests of a whole pass, and whether it ends well.

## Main statements

* `Client.pass_lifecycle`: applying and tearing down are such passes, in every environment.
-/
namespace ProxySync

namespace DataPlane

/-- The version that a reply tells. -/
def Reply.version? : Reply → Option Int64
  | .lost _ => none
  | .answered status body => if isSuccess status then DataPlane.version? body else none

/-- The transaction that a reply grants. -/
def Reply.granted? (r : Reply) : Option Wire.Transaction := r.tells Wire.Transaction.ofJson?

end DataPlane

open DataPlane.Client in
/-- The requests that close a transaction after its steps, and whether the pass ends well. -/
inductive Lifecycle.Ending (c : DataPlane.Client) (t : Wire.Transaction) (steps : List Sent) :
    List Sent → Bool → Prop
  /-- Every step succeeded, one changed something, and the commit was accepted. -/
  | committed {reply : DataPlane.Reply} (succeeded : ∀ x ∈ steps, x.succeeds = true)
      (changed : ∃ x ∈ steps, x.changes = true) (accepted : reply.isAccepted = true) :
      Ending c t steps [⟨c.commitRequest t, reply⟩] true
  /-- The transaction to commit does not exist any more. -/
  | gone {reply : DataPlane.Reply} (succeeded : ∀ x ∈ steps, x.succeeds = true)
      (changed : ∃ x ∈ steps, x.changes = true) (absent : reply.isAbsent = true) :
      Ending c t steps [⟨c.commitRequest t, reply⟩] false
  /-- The commit failed in another way; the transaction is discarded. -/
  | rejected {reply reply' : DataPlane.Reply} (succeeded : ∀ x ∈ steps, x.succeeds = true)
      (changed : ∃ x ∈ steps, x.changes = true) (refused : reply.isAccepted = false)
      (present : reply.isAbsent = false) :
      Ending c t steps [⟨c.commitRequest t, reply⟩, ⟨discardRequest t, reply'⟩] false
  /-- Every step succeeded and none changed anything: there is nothing to commit. -/
  | unchanged {reply : DataPlane.Reply} (succeeded : ∀ x ∈ steps, x.succeeds = true)
      (unchanged : ∀ x ∈ steps, x.changes = false) :
      Ending c t steps [⟨discardRequest t, reply⟩] reply.isAccepted
  /-- The last step failed, and only that one. -/
  | failed {reply : DataPlane.Reply} {front : List Sent} {last : Sent}
      (steps_eq : steps = front ++ [last]) (succeeded : ∀ x ∈ front, x.succeeds = true)
      (failed : last.succeeds = false) : Ending c t steps [⟨discardRequest t, reply⟩] false

open DataPlane.Client in
/-- The requests of a pass, and whether it ends well. -/
inductive Lifecycle (c : DataPlane.Client) : List Sent → Bool → Prop
  /-- No version was told. -/
  | unversioned {reply : DataPlane.Reply} (version : reply.version? = none) :
      Lifecycle c [⟨versionRequest, reply⟩] false
  /-- No transaction was granted on the version. -/
  | ungranted {reply₀ reply : DataPlane.Reply} {v : Int64} (version : reply₀.version? = some v)
      (granted : reply.granted? = none) :
      Lifecycle c [⟨versionRequest, reply₀⟩, ⟨openRequest v, reply⟩] false
  /-- Inside the transaction only its own requests are made, and then it is closed. -/
  | opened {reply₀ reply : DataPlane.Reply} {v : Int64} {t : Wire.Transaction}
      {steps closing : List Sent} {ok : Bool} (version : reply₀.version? = some v)
      (granted : reply.granted? = some t) (inScope : ∀ x ∈ steps, ScopedBy t x.request)
      (ending : Lifecycle.Ending c t steps closing ok) :
      Lifecycle c (⟨versionRequest, reply₀⟩ :: ⟨openRequest v, reply⟩ :: (steps ++ closing)) ok

namespace DataPlane.Client
open SessionM
variable {α β : Type} {c : Client} {t : Wire.Transaction} {s s' : Session} {sent : List Sent}

/-! ## Closing -/

theorem isOk_map {ε : Type} (f : α → β) (r : Except ε α) : (r.map f).isOk = r.isOk := by
  cases r <;> rfl

theorem isOk_committed (e : Endpoint) (t : Wire.Transaction) (reply : Reply) :
    ((c.received e reply).bind (committedIn t)).isOk = reply.isAccepted := by
  cases reply with
  | lost cause => rfl
  | answered status body =>
    simp only [received, Except.bind, committedIn, Reply.isAccepted, Reply.status?,
      Response.isSuccess, Option.any_some]
    by_cases hr : status = 400 ∨ status = 404 ∨ status = 406
    · rcases hr with rfl | rfl | rfl <;> rfl
    · simp only [not_or] at hr
      by_cases hs : isSuccess status = true <;>
        simp [hr, hs, Except.isOk, Except.toBool]

theorem isOk_discarded (e : Endpoint) (t : Wire.Transaction) (reply : Reply) :
    ((c.received e reply).bind (discardedIn t)).isOk = reply.isAccepted := by
  cases reply with
  | lost cause => rfl
  | answered status body =>
    simp only [received, Except.bind, discardedIn, Reply.isAccepted, Reply.status?,
      Response.isSuccess, Option.any_some]
    by_cases h404 : status = 404
    · subst h404
      rfl
    · by_cases hs : isSuccess status = true <;> simp [h404, hs, Except.isOk, Except.toBool]

/-- A dirty session commits when it is closed. -/
theorem conduct_close_dirty (ht : s.transaction = some t) (hd : s.dirty = true)
    {r : Except ClientError Closing} (h : Conduct c.close s sent r s') :
    ∃ reply, sent = [⟨c.commitRequest t, reply⟩] ∧
      r = ((c.received (c.commitRequest t).endpoint reply).bind (committedIn t)).map .committed ∧
      s' = s.settled reply := by
  rw [close, conduct_get_bind] at h
  simp only [ht, Option.isNone_some, Bool.false_eq_true, if_false, hd, if_true] at h
  obtain ⟨r₀, rfl, hcommit⟩ := conduct_bind_pure.1 h
  obtain ⟨reply, rfl, rfl, rfl⟩ := (conduct_commit ht).1 hcommit
  exact ⟨reply, rfl, rfl, rfl⟩

/-- A session that is not dirty discards when it is closed. -/
theorem conduct_close_clean (ht : s.transaction = some t) (hd : s.dirty = false)
    {r : Except ClientError Closing} (h : Conduct c.close s sent r s') :
    ∃ reply, sent = [⟨discardRequest t, reply⟩] ∧
      r = ((c.received (discardRequest t).endpoint reply).bind (discardedIn t)).map
        (fun _ => .discarded) ∧ s' = .fresh := by
  rw [close, conduct_get_bind] at h
  simp only [ht, Option.isNone_some, Bool.false_eq_true, if_false, hd] at h
  obtain ⟨r₀, rfl, hdiscard⟩ := conduct_bind_pure.1 h
  obtain ⟨reply, rfl, rfl, rfl⟩ := (conduct_discard ht).1 hdiscard
  exact ⟨reply, rfl, rfl, rfl⟩

/-- Giving up discards what is open; how that goes does not matter. -/
theorem conduct_abort {r : Except ClientError Unit} (h : Conduct c.abort s sent r s') :
    r = .ok () ∧ ((s.transaction = none ∧ sent = []) ∨
      ∃ t reply, s.transaction = some t ∧ sent = [⟨discardRequest t, reply⟩]) := by
  rw [abort, conduct_get_bind] at h
  cases ht : s.transaction with
  | none =>
    simp only [ht, Option.isSome_none, Bool.false_eq_true, if_false] at h
    obtain ⟨rfl, rfl, _⟩ := conduct_pure.1 h
    exact ⟨rfl, .inl ⟨rfl, rfl⟩⟩
  | some t =>
    simp only [ht, Option.isSome_some, if_true] at h
    obtain ⟨_, rfl, hd⟩ | ⟨_, _, _, _, rfl, hd, hp⟩ := conduct_tryCatch.1 h
    · obtain ⟨reply, rfl, _⟩ := (conduct_discard ht).1 hd
      exact ⟨rfl, .inr ⟨t, reply, rfl, rfl⟩⟩
    · obtain ⟨reply, rfl, _⟩ := (conduct_discard ht).1 hd
      obtain ⟨rfl, rfl, _⟩ := conduct_pure.1 hp
      exact ⟨rfl, .inr ⟨t, reply, rfl, rfl⟩⟩

/-- A failing step is followed by what giving up takes, and its failure is the one returned. -/
theorem conduct_orAbort {x : SessionM α} {r : Except ClientError α}
    (h : Conduct (c.orAbort x) s sent r s') :
    (∃ a, r = .ok a ∧ Conduct x s sent (.ok a) s') ∨
      ∃ e sent₁ sent₂ s₁, r = .error e ∧ sent = sent₁ ++ sent₂ ∧
        Conduct x s sent₁ (.error e) s₁ ∧ Conduct c.abort s₁ sent₂ (.ok ()) s' := by
  rw [orAbort] at h
  obtain h | ⟨sent₁, _, e, s₁, rfl, h₁, h₂⟩ := conduct_tryCatch.1 h
  · exact .inl h
  · obtain ⟨sent₂, _, _, s₂, rfl, h₃, h₄⟩ | ⟨e', _, h₃⟩ := conduct_bind.1 h₂
    · obtain ⟨rfl, rfl, rfl⟩ := conduct_throw.1 h₄
      exact .inr ⟨e, sent₁, sent₂, s₁, rfl, by simp, h₁, h₃⟩
    · cases (conduct_abort h₃).1

/-! ## A pass as a whole -/

/-- After steps that succeeded the transaction is closed, and discarded where the commit fails. -/
theorem ending_of_succeeded {f : β → α} {b : β} {steps : List Sent} {r : Except ClientError α}
    {closing : List Sent} {s₁ : Session} (ht : s₁.transaction = some t)
    (hd : s₁.dirty = steps.any (·.changes)) (hsteps : ∀ x ∈ steps, x.succeeds = true)
    (h : Conduct (c.close >>= fun _ => pure (f b)) s₁ closing r s') :
    Lifecycle.Ending c t steps closing r.isOk ∧ r.isOk = true ∨
      r.isOk = false ∧ ∀ {after r₁ s₂}, Conduct c.abort s' after r₁ s₂ →
        Lifecycle.Ending c t steps (closing ++ after) false := by
  obtain ⟨r₀, rfl, hclose⟩ := conduct_bind_pure.1 h
  rw [isOk_map]
  cases hany : steps.any (·.changes) with
  | true =>
    rw [hany] at hd
    have hchanged : ∃ x ∈ steps, x.changes = true := List.any_eq_true.1 hany
    obtain ⟨reply, rfl, rfl, rfl⟩ := conduct_close_dirty ht hd hclose
    rw [isOk_map, isOk_committed]
    cases hacc : reply.isAccepted with
    | true => exact .inl ⟨.committed hsteps hchanged hacc, rfl⟩
    | false =>
      refine .inr ⟨rfl, fun habort => ?_⟩
      cases habs : reply.isAbsent with
      | true =>
        have hgone : (s₁.settled reply).transaction = none := by
          cases reply with
          | lost cause => cases habs
          | answered status body =>
            have h404 : status = 404 := by simpa [Reply.isAbsent, Reply.status?] using habs
            simp [Session.settled, h404]
        obtain ⟨_, ⟨_, rfl⟩ | ⟨t', _, ht', _⟩⟩ := conduct_abort habort
        · exact .gone hsteps hchanged habs
        · rw [hgone] at ht'; cases ht'
      | false =>
        have hopen : (s₁.settled reply).transaction = some t := by
          cases reply with
          | lost cause => exact ht
          | answered status body =>
            have h404 : status ≠ 404 := by simpa [Reply.isAbsent, Reply.status?] using habs
            have hs : ¬ isSuccess status = true := by
              simpa [Reply.isAccepted, Reply.status?] using hacc
            simp [Session.settled, h404, hs, ht]
        obtain ⟨_, ⟨ht', _⟩ | ⟨t', reply', ht', rfl⟩⟩ := conduct_abort habort
        · rw [hopen] at ht'; cases ht'
        · rw [hopen] at ht'; cases ht'
          exact .rejected hsteps hchanged hacc habs
  | false =>
    rw [hany] at hd
    have hnone : ∀ x ∈ steps, x.changes = false := by simpa using hany
    obtain ⟨reply, rfl, rfl, rfl⟩ := conduct_close_clean ht hd hclose
    rw [isOk_map, isOk_discarded]
    have hend : Lifecycle.Ending c t steps [⟨discardRequest t, reply⟩] reply.isAccepted :=
      .unchanged hsteps hnone
    cases hacc : reply.isAccepted with
    | true =>
      rw [hacc] at hend
      exact .inl ⟨hend, rfl⟩
    | false =>
      refine .inr ⟨rfl, fun habort => ?_⟩
      obtain ⟨_, ⟨_, rfl⟩ | ⟨_, _, ht', _⟩⟩ := conduct_abort habort
      · rw [hacc] at hend
        exact hend
      · cases ht'

/-- Inside its transaction a pass makes its requests and closes the transaction once. -/
theorem ending_of_conduct {body : SessionM β} {f : β → α} {r : Except ClientError α}
    (hbody : Staged t body)
    (h : Conduct (c.orAbort (body >>= fun b => c.close >>= fun _ => pure (f b)))
      { transaction := some t, dirty := false } sent r s') :
    ∃ steps closing r₀ s₁, sent = steps ++ closing ∧
      Conduct body { transaction := some t, dirty := false } steps r₀ s₁ ∧
      (∀ x ∈ steps, ScopedBy t x.request) ∧ Lifecycle.Ending c t steps closing r.isOk := by
  obtain ⟨a, rfl, hx⟩ | ⟨e, sent₁, after, s₁, rfl, rfl, hx, habort⟩ := conduct_orAbort h
  · obtain ⟨steps, closing, b, s₁, rfl, hb, hclose⟩ | ⟨e, he, _⟩ := conduct_bind.1 hx
    · have hstage := hbody _ _ _ _ rfl hb
      refine ⟨steps, closing, _, _, rfl, hb, hstage.inScope, ?_⟩
      obtain ⟨hend, _⟩ | ⟨hno, _⟩ := ending_of_succeeded (t := t) (by rw [hstage.session]; rfl)
        (by rw [hstage.session]; rfl) (hstage.succeeded rfl) hclose
      · exact hend
      · cases hno
    · cases he
  · obtain ⟨steps, closing, b, s₃, rfl, hb, hclose⟩ | ⟨e', _, hb⟩ := conduct_bind.1 hx
    · have hstage := hbody _ _ _ _ rfl hb
      refine ⟨steps, closing ++ after, _, _, List.append_assoc .., hb, hstage.inScope, ?_⟩
      obtain ⟨_, hyes⟩ | ⟨_, hend⟩ := ending_of_succeeded (t := t) (by rw [hstage.session]; rfl)
        (by rw [hstage.session]; rfl) (hstage.succeeded rfl) hclose
      · cases hyes
      · exact hend habort
    · have hstage := hbody _ _ _ _ rfl hb
      obtain ⟨front, last, hsteps, hfront, hlast⟩ := hstage.failed rfl
      have ht : s₁.transaction = some t := by rw [hstage.session]; rfl
      obtain ⟨_, ⟨ht', _⟩ | ⟨t', reply, ht', rfl⟩⟩ := conduct_abort habort
      · rw [ht] at ht'; cases ht'
      · rw [ht] at ht'; cases ht'
        exact ⟨sent₁, _, _, _, rfl, hb, hstage.inScope, .failed hsteps hfront hlast⟩

/-- What reading the version tells. -/
theorem version?_of_versionIn {reply : Reply} {v : Int64}
    (h : (c.received versionEndpoint reply).bind versionIn = .ok v) :
    reply.version? = some v := by
  cases reply with
  | lost cause => cases h
  | answered status body =>
    simp only [received, Except.bind, versionIn, Response.isSuccess] at h
    simp only [Reply.version?]
    by_cases hs : isSuccess status = true
    · simp only [hs, if_true] at h ⊢
      cases hv : DataPlane.version? body with
      | none => rw [hv] at h; cases h
      | some v' => rw [hv] at h; cases h; rfl
    · simp [hs] at h

theorem version?_eq_none {reply : Reply} {e : ClientError}
    (h : (c.received versionEndpoint reply).bind versionIn = .error e) :
    reply.version? = none := by
  cases reply with
  | lost cause => rfl
  | answered status body =>
    simp only [received, Except.bind, versionIn, Response.isSuccess] at h
    simp only [Reply.version?]
    by_cases hs : isSuccess status = true
    · simp only [hs, if_true] at h ⊢
      cases hv : DataPlane.version? body with
      | none => rfl
      | some v' => rw [hv] at h; cases h
    · simp [hs]

/-- What a request for a transaction grants. -/
theorem granted?_of_grantedIn {e : Endpoint} {reply : Reply}
    {r : Except ClientError Wire.Transaction} (h : r = (c.received e reply).bind c.grantedIn) :
    reply.granted? = r.toOption := by
  subst h
  cases reply with
  | lost cause => rfl
  | answered status body =>
    simp only [received, Except.bind, grantedIn, Response.isSuccess, Reply.granted?, Reply.tells]
    by_cases h409 : status = 409
    · subst h409
      rfl
    · by_cases hs : isSuccess status = true
      · simp only [h409, if_false, hs, if_true, readIn]
        cases (Json.parse? body).bind Wire.Transaction.ofJson? <;> rfl
      · simp [h409, hs, Except.toOption]

/-- Steps between opening and closing a transaction are made, if one is opened, and then it is
closed. -/
theorem opened_of_conduct {body : SessionM β} {f : β → α} {r : Except ClientError α}
    (hbody : ∀ t, Staged t body)
    (h : Conduct (c.openTransaction >>= fun _ =>
      c.orAbort (body >>= fun b => c.close >>= fun _ => pure (f b))) .fresh sent r s') :
    ∃ reply₀,
      (sent = [⟨versionRequest, reply₀⟩] ∧ reply₀.version? = none ∧ r.isOk = false) ∨
      ∃ v reply, reply₀.version? = some v ∧
        ((sent = [⟨versionRequest, reply₀⟩, ⟨openRequest v, reply⟩] ∧ reply.granted? = none ∧
          r.isOk = false) ∨
        ∃ t steps closing r₀ s₁,
          sent = ⟨versionRequest, reply₀⟩ :: ⟨openRequest v, reply⟩ :: (steps ++ closing) ∧
          reply.granted? = some t ∧
          Conduct body { transaction := some t, dirty := false } steps r₀ s₁ ∧
          (∀ x ∈ steps, ScopedBy t x.request) ∧
          Lifecycle.Ending c t steps closing r.isOk) := by
  obtain ⟨_, rest, t, s₁, rfl, hopen, h⟩ | ⟨e, rfl, hopen⟩ := conduct_bind.1 h
  · obtain ⟨reply₀, ⟨e, _, _, hr, _⟩ | ⟨v, reply, hv, rfl, hr, rfl⟩⟩ :=
      conduct_openTransaction rfl hopen
    · cases hr
    · obtain ⟨steps, closing, r₀, s₂, rfl, hb, hscope, hend⟩ := ending_of_conduct (hbody t) h
      exact ⟨reply₀, .inr ⟨v, reply, version?_of_versionIn hv,
        .inr ⟨t, steps, closing, r₀, s₂, rfl, granted?_of_grantedIn hr, hb, hscope, hend⟩⟩⟩
  · obtain ⟨reply₀, ⟨e, hv, rfl, _⟩ | ⟨v, reply, hv, rfl, hr, _⟩⟩ :=
      conduct_openTransaction rfl hopen
    · exact ⟨reply₀, .inl ⟨rfl, version?_eq_none hv, rfl⟩⟩
    · exact ⟨reply₀, .inr ⟨v, reply, version?_of_versionIn hv,
        .inl ⟨rfl, granted?_of_grantedIn hr, rfl⟩⟩⟩

/-- Steps between opening and closing a transaction make a pass. -/
theorem lifecycle_of_conduct {body : SessionM β} {f : β → α} {r : Except ClientError α}
    (hbody : ∀ t, Staged t body)
    (h : Conduct (c.openTransaction >>= fun _ =>
      c.orAbort (body >>= fun b => c.close >>= fun _ => pure (f b))) .fresh sent r s') :
    Lifecycle c sent r.isOk := by
  obtain ⟨reply₀, ⟨rfl, hversion, hr⟩ | ⟨v, reply, hversion, ⟨rfl, hgranted, hr⟩ |
    ⟨t, steps, closing, _, _, rfl, hgranted, _, hscope, hend⟩⟩⟩ := opened_of_conduct hbody h
  · rw [hr]
    exact .unversioned hversion
  · rw [hr]
    exact .ungranted hversion hgranted
  · exact .opened hversion hgranted hscope hend

theorem lifecycle_apply {d : Resolved} {r : Except ClientError SyncReport}
    (h : Conduct (c.apply d) .fresh sent r s') : Lifecycle c sent r.isOk :=
  lifecycle_of_conduct (fun _ => staged_ensureBackend d) h

theorem lifecycle_teardown {name : String} {r : Except ClientError Unit}
    (h : Conduct (c.teardown name) .fresh sent r s') : Lifecycle c sent r.isOk :=
  lifecycle_of_conduct (fun _ => staged_deleteBackend name) h

/-- Against every Data Plane, whatever it replies, applying a backend and tearing one down send the
requests of one transaction and end accordingly. -/
theorem pass_lifecycle {σ : Type} (c : Client) (env : Environment DataPlane.interface σ) (w : σ) :
    (∀ d : Resolved,
      Lifecycle c (Sent.ofTrace (((c.apply d).start .fresh).trace env w))
        (((c.apply d).start .fresh).run env w).1.1.isOk) ∧
    ∀ name : String,
      Lifecycle c (Sent.ofTrace (((c.teardown name).start .fresh).trace env w))
        (((c.teardown name).start .fresh).run env w).1.1.isOk :=
  ⟨fun _ => lifecycle_apply (conduct_run env _ _ w),
    fun _ => lifecycle_teardown (conduct_run env _ _ w)⟩

end DataPlane.Client
end ProxySync
