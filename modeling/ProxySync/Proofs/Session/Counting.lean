import ProxySync.Proofs.Session.Operations
/-!
# What the operations of a session count

A failure is counted where it is raised, and an accepted write where it is seen to be accepted.
Both are said of the trace of a step, whoever answers it: the failures counted are the one that the
step ends with, if it fails, and the writes counted are those of its requests that were granted, in
their order. What a request is counted as can be told from where it goes.

## Main definitions

* `Measurement.ofTrace`: what was counted, in order.
* `Request.write?`, `Sent.write?`: what a request is counted as, and what a granted one is.
* `SessionM.Owes`: the step counts its failure and its granted writes, and writes that were granted
  just before it.

## Main statements

* `Configuring.counts`: operations on the configuration count all of that, and nothing else.
* `Client.counted_once`: so do all operations; giving up counts as its discarding does.
-/
namespace ProxySync

namespace Measurement

/-- The category of a failure. -/
def failure? : Measurement → Option String
  | .failure category => some category
  | .write .. => none

/-- Resource and operation of a write. -/
def write? : Measurement → Option (String × String)
  | .failure _ => none
  | .write resource operation => some (resource, operation)

/-- What was counted on the way, in order. -/
def ofTrace : List (Exchange DataPlane.interface) → List Measurement
  | [] => []
  | ⟨.request _, _⟩ :: tr => ofTrace tr
  | ⟨.measure m, _⟩ :: tr => m :: ofTrace tr

@[simp] theorem ofTrace_append (tr₁ tr₂ : List (Exchange DataPlane.interface)) :
    ofTrace (tr₁ ++ tr₂) = ofTrace tr₁ ++ ofTrace tr₂ := by
  fun_induction ofTrace tr₁ with
  | case1 => rfl
  | case2 r reply tr ih => exact ih
  | case3 m u tr ih => exact congrArg (_ :: ·) ih

/-- The failures that were counted on the way. -/
def failures (tr : List (Exchange DataPlane.interface)) : List String :=
  (ofTrace tr).filterMap failure?

/-- The writes that were counted on the way. -/
def writes (tr : List (Exchange DataPlane.interface)) : List (String × String) :=
  (ofTrace tr).filterMap write?

@[simp] theorem failures_append (tr₁ tr₂ : List (Exchange DataPlane.interface)) :
    failures (tr₁ ++ tr₂) = failures tr₁ ++ failures tr₂ := by
  simp [failures]

@[simp] theorem writes_append (tr₁ tr₂ : List (Exchange DataPlane.interface)) :
    writes (tr₁ ++ tr₂) = writes tr₁ ++ writes tr₂ := by
  simp [writes]

end Measurement

/-- What a request for a change is counted as: the resource and what happens to it. -/
def DataPlane.Request.write? (q : DataPlane.Request) : Option (String × String) :=
  match q.endpoint.area, q.method, q.endpoint.segments with
  | .configuration, .post, ["backends"] => some ("backend", "create")
  | .configuration, .put, ["backends", _] => some ("backend", "update")
  | .configuration, .delete, ["backends", _] => some ("backend", "delete")
  | .configuration, .put, ["backends", _, "http_checks"] => some ("http_checks", "update")
  | .configuration, .post, ["backends", _, "servers"] => some ("server", "create")
  | .configuration, .put, ["backends", _, "servers", _] => some ("server", "update")
  | .configuration, .delete, ["backends", _, "servers", _] => some ("server", "delete")
  | .configuration, .post, ["frontends"] => some ("frontend", "create")
  | .configuration, .put, ["frontends", _] => some ("frontend", "update")
  | .configuration, .post, ["frontends", _, "binds"] => some ("bind", "create")
  | .configuration, .put, ["frontends", _, "backend_switching_rules"] =>
    some ("backend_switching_rule", "update")
  | .configuration, .delete, ["frontends", _, "backend_switching_rules", _] =>
    some ("backend_switching_rule", "delete")
  | .transactions, .put, [_] => some ("transaction", "commit")
  | .transactions, .delete, [_] => some ("transaction", "discard")
  | _, _, _ => none

/-- Whether a request was granted. In the configuration a deletion is only by 200, 202 or 204;
about a transaction every success counts. -/
def Sent.granted (x : Sent) : Bool :=
  match x.request.endpoint.area with
  | .configuration => x.changes
  | .transactions => x.reply.accepts .put

/-- What a request that was granted is counted as. -/
def Sent.write? (x : Sent) : Option (String × String) :=
  if x.granted then x.request.write? else none

theorem Sent.write?_lost (q : DataPlane.Request) (cause : String) :
    Sent.write? ⟨q, .lost cause⟩ = none := by
  have hgranted : Sent.granted ⟨q, .lost cause⟩ = false := by
    rw [granted]
    cases q.endpoint.area <;> rfl
  rw [write?, hgranted]
  rfl

/-- The category of a failure, where there is one. -/
def ClientError.raised {α : Type} : Except ClientError α → List String
  | .ok _ => []
  | .error e => [e.category]

namespace SessionM
open ClientError
variable {α β : Type}

/-- Answered in any way, the step counts a failure just if it ends with it, and its granted writes
in order, after those that it is still to count when it begins. -/
def Owes (owed : List (String × String)) (x : SessionM α) : Prop :=
  ∀ s tr r s', Dialogue.Leads (x.start s) tr (r, s') →
    Measurement.failures tr = raised r ∧
    Measurement.writes tr = owed ++ (Sent.ofTrace tr).filterMap Sent.write?

/-- The step counts its failure and its granted writes, and nothing else. -/
abbrev Counts (x : SessionM α) : Prop := Owes [] x

variable {owed : List (String × String)} {x : SessionM α} {f : α → SessionM β}

/-- A step that is done at once counts nothing. -/
theorem counts_of_done {g : Session → α × Session}
    (h : ∀ s, x.start s = .done (.ok (g s).1, (g s).2)) : Counts x := by
  intro s tr r s' hleads
  rw [h, Dialogue.leads_done] at hleads
  obtain ⟨rfl, hr⟩ := hleads
  obtain ⟨rfl, -⟩ := Prod.mk.inj hr
  exact ⟨rfl, rfl⟩

theorem counts_pure (a : α) : Counts (pure a : SessionM α) :=
  counts_of_done (g := fun s => (a, s)) fun _ => rfl

theorem counts_get : Counts (get : SessionM Session) :=
  counts_of_done (g := fun s => (s, s)) fun _ => rfl

/-- A failure is counted where it is raised. -/
theorem leads_fail {e : ClientError} {s s' : Session} {r : Except ClientError α}
    {tr : List (Exchange DataPlane.interface)}
    (h : Dialogue.Leads ((fail e : SessionM α).start s) tr (r, s')) :
    tr = [⟨.measure (.failure e.category), ()⟩] ∧ r = .error e := by
  have hstart : (fail e : SessionM α).start s =
      .ask (I := DataPlane.interface) (.measure (.failure e.category)) fun _ =>
        .done (.error e, s) := rfl
  rw [hstart] at h
  cases h with
  | ask _ _ h => cases h; exact ⟨rfl, rfl⟩

theorem counts_fail (e : ClientError) : Counts (fail e : SessionM α) := by
  intro s tr r s' h
  obtain ⟨rfl, rfl⟩ := leads_fail h
  exact ⟨rfl, rfl⟩

/-- After a failure nothing is counted. -/
theorem counts_fail_bind (e : ClientError) (f : α → SessionM β) :
    Counts ((fail e : SessionM α) >>= f) := by
  intro s tr r s' h
  rw [start_bind, Dialogue.leads_bind] at h
  obtain ⟨tr₁, tr₂, ⟨r₁, s₁⟩, rfl, h₁, h₂⟩ := h
  obtain ⟨rfl, rfl⟩ := leads_fail h₁
  cases h₂
  exact ⟨rfl, rfl⟩

/-- A measurement of a write makes up for one. -/
theorem owes_measure (resource operation : String) :
    Owes [(resource, operation)] (measure (.write resource operation)) := by
  intro s tr r s' h
  rw [start_measure] at h
  cases h with
  | ask _ _ h => cases h; exact ⟨rfl, rfl⟩

/-- What the first step has counted stands before what the second one counts. -/
theorem Owes.bind (hx : Owes owed x) (hf : ∀ a, Counts (f a)) : Owes owed (x >>= f) := by
  intro s tr r s' h
  rw [start_bind, Dialogue.leads_bind] at h
  obtain ⟨tr₁, tr₂, ⟨r₁, s₁⟩, rfl, h₁, h₂⟩ := h
  obtain ⟨hfailures, hwrites⟩ := hx _ _ _ _ h₁
  cases r₁ with
  | ok a =>
    obtain ⟨hfailures', hwrites'⟩ := hf a _ _ _ _ h₂
    simp [hfailures, hwrites, hfailures', hwrites', raised]
  | error e =>
    obtain ⟨rfl, hr⟩ := Dialogue.leads_done.1 h₂
    obtain ⟨rfl, -⟩ := Prod.mk.inj hr
    simp [hfailures, hwrites, raised]

/-- A step that is done at once leaves to the next one what is owed. -/
theorem Owes.after {g : Session → α × Session}
    (h : ∀ s, x.start s = .done (.ok (g s).1, (g s).2)) (hf : ∀ a, Owes owed (f a)) :
    Owes owed (x >>= f) := by
  intro s tr r s' hleads
  rw [start_bind, h] at hleads
  exact hf _ _ _ _ _ hleads

theorem Owes.modify {g : Session → Session} {f : PUnit → SessionM β} (hf : ∀ a, Owes owed (f a)) :
    Owes owed (modify g >>= f) :=
  .after (g := fun s => (⟨⟩, g s)) (fun _ => rfl) hf

theorem Owes.set {s : Session} {f : PUnit → SessionM β} (hf : ∀ a, Owes owed (f a)) :
    Owes owed (set s >>= f) :=
  .after (g := fun _ => (⟨⟩, s)) (fun _ => rfl) hf

theorem owes_markDirty (resource operation : String) :
    Owes [(resource, operation)] (markDirty resource operation) :=
  .modify fun _ => owes_measure resource operation

end SessionM

namespace DataPlane.Client
open SessionM
variable {α : Type} {c : Client}

/-- A request is counted by what comes after it, if it was granted. -/
theorem counts_send {m : Method} {e : Endpoint} {body : Option Json} {k : Response → SessionM α}
    (hk : ∀ a : Response,
      Owes (Sent.write? ⟨⟨m, e, body⟩, .answered a.status a.body⟩).toList (k a)) :
    Counts (c.send m e body >>= k) := by
  intro s tr r s' h
  rw [send, bind_assoc, start_bind, Dialogue.leads_bind] at h
  obtain ⟨tr₁, tr₂, ⟨r₁, s₁⟩, rfl, h₁, h₂⟩ := h
  rw [start_request] at h₁
  cases h₁ with
  | ask _ reply h₁ =>
    cases h₁
    cases reply with
    | answered status body' =>
      obtain ⟨hfailures, hwrites⟩ := hk ⟨status, body'⟩ _ _ _ _ h₂
      refine ⟨hfailures, hwrites.trans ?_⟩
      cases hwrite : Sent.write? ⟨⟨m, e, body⟩, .answered status body'⟩ <;>
        simp [Sent.ofTrace, hwrite]
    | lost cause =>
      obtain ⟨hfailures, hwrites⟩ := counts_fail_bind _ k _ _ _ _ h₂
      refine ⟨hfailures, hwrites.trans ?_⟩
      simp [Sent.ofTrace, Sent.write?_lost]

/-- A request that asks for nothing to be counted is followed by a step that counts. -/
theorem counts_send_of_unwritten {m : Method} {e : Endpoint} {body : Option Json}
    {k : Response → SessionM α} (hwrite : Request.write? ⟨m, e, body⟩ = none)
    (hk : ∀ a, Counts (k a)) : Counts (c.send m e body >>= k) := by
  refine counts_send fun a => ?_
  have hnone : Sent.write? ⟨⟨m, e, body⟩, .answered a.status a.body⟩ = none := by
    simp only [Sent.write?, hwrite, ite_self]
  rw [hnone]
  exact hk a

theorem counts_refused (operation : String) (a : Response) :
    Counts (refused operation a : SessionM α) := counts_fail _

theorem counts_decode (c : Client) (what : String) (read : Json → Option α) (a : Response) :
    Counts (c.decode what read a) := by
  rw [decode]
  split
  · exact counts_pure _
  · exact counts_fail _

theorem counts_version : Counts c.version := by
  refine counts_send_of_unwritten rfl fun a => ?_
  split
  · split
    · exact counts_pure _
    · exact counts_fail _
  · exact counts_refused _ a

theorem counts_scope : Counts c.scope := by
  refine Owes.bind counts_get fun s => ?_
  split
  · exact counts_pure _
  · exact counts_version.bind fun _ => counts_pure _

/-- A configuration request is counted by what comes after it, if it was granted. -/
theorem counts_configure {m : Method} {segments : List String} {body : Option Json}
    {k : Response → SessionM α}
    (hk : ∀ parameter, ∀ a : Response,
      Owes (Sent.write? ⟨scopedRequest m segments body parameter,
        .answered a.status a.body⟩).toList (k a)) :
    Counts (c.configure m segments body >>= k) := by
  rw [configure, bind_assoc]
  exact counts_scope.bind fun parameter => counts_send (hk parameter)

/-- A look counts nothing but its failure. -/
theorem counts_look {segments : List String} {k : Response → SessionM α}
    (hk : ∀ a, Counts (k a)) : Counts (c.configure .get segments none >>= k) := by
  rw [configure, bind_assoc]
  refine counts_scope.bind fun parameter => counts_send_of_unwritten ?_ hk
  simp [Request.write?]

theorem counts_find? {segments : List String} {operation what : String}
    {read : Json → Option α} : Counts (c.find? segments operation what read) := by
  refine counts_look fun a => ?_
  split
  · exact counts_pure _
  · split
    · exact (counts_decode c what read a).bind fun _ => counts_pure _
    · exact counts_refused _ a

theorem counts_list {segments : List String} {operation what : String}
    {read : Json → Option α} : Counts (c.list segments operation what read) := by
  refine counts_look fun a => ?_
  split
  · exact counts_decode c _ _ a
  · exact counts_refused _ a

/-- A write counts as what its request is, if it was granted. -/
theorem counts_write {m : Method} {segments : List String} {body : Json}
    {operation resource change : String} (hm : m = .post ∨ m = .put)
    (hwrite : ∀ parameter,
      (scopedRequest m segments (some body) parameter).write? = some (resource, change)) :
    Counts (c.write m segments body operation resource change) := by
  refine counts_configure fun parameter a => ?_
  have hgranted : Sent.granted ⟨scopedRequest m segments (some body) parameter,
      .answered a.status a.body⟩ = a.isSuccess := by
    rcases hm with rfl | rfl <;> rfl
  simp only [Sent.write?, hgranted, hwrite]
  split
  · exact owes_markDirty resource change
  · exact counts_refused _ a

/-- So does a deletion. -/
theorem counts_delete {segments : List String} {operation resource : String}
    (hwrite : ∀ parameter,
      (scopedRequest .delete segments none parameter).write? = some (resource, "delete")) :
    Counts (c.delete segments operation resource) := by
  refine counts_configure fun parameter a => ?_
  have hgranted : Sent.granted ⟨scopedRequest .delete segments none parameter,
      .answered a.status a.body⟩ =
      (a.status = 200 || a.status = 202 || a.status = 204) := rfl
  simp only [Sent.write?, hgranted, hwrite, Bool.or_eq_true, decide_eq_true_eq, or_assoc]
  by_cases hgone : a.status = 404
  · rw [if_pos hgone, if_neg (by omega)]
    exact counts_pure _
  · rw [if_neg hgone]
    by_cases hdeleted : a.status = 200 ∨ a.status = 202 ∨ a.status = 204
    · rw [if_pos hdeleted, if_pos hdeleted]
      exact (owes_markDirty resource "delete").bind fun _ => counts_pure _
    · rw [if_neg hdeleted, if_neg hdeleted]
      split
      · exact counts_pure _
      · exact counts_refused _ a

/-! ## The operations on the configuration -/

/-- A write whose acceptance gives a value. -/
theorem counts_written {m : Method} {segments : List String} {body : Json}
    {operation resource change : String} (hm : m = .post ∨ m = .put)
    (hwrite : ∀ parameter,
      (scopedRequest m segments (some body) parameter).write? = some (resource, change)) (a : α) :
    Counts (c.write m segments body operation resource change >>= fun _ => pure a) :=
  (counts_write hm hwrite).bind fun _ => counts_pure a

theorem counts_ensureDefinition (wanted : Wire.Backend) : Counts (c.ensureDefinition wanted) := by
  refine counts_find?.bind fun found => ?_
  cases found with
  | none => exact counts_written (.inl rfl) (fun _ => rfl) _
  | some current =>
    simp only
    split
    · exact counts_fail _
    · split
      · exact counts_written (.inr rfl) (fun _ => rfl) _
      · exact counts_pure _

theorem counts_deleteBackend (name : String) : Counts (c.deleteBackend name) := by
  refine counts_find?.bind fun found => ?_
  cases found with
  | none => exact counts_pure _
  | some current =>
    simp only
    split
    · exact counts_fail _
    · exact counts_delete fun _ => rfl

theorem counts_getHttpChecks (backend : String) : Counts (c.getHttpChecks backend) :=
  counts_find?.bind fun _ => counts_pure _

theorem counts_ensureHttpChecks (backend : String) (wanted : List Wire.HttpCheck) :
    Counts (c.ensureHttpChecks backend wanted) := by
  refine (counts_getHttpChecks backend).bind fun current => ?_
  split
  · exact counts_pure _
  · exact counts_written (.inr rfl) (fun _ => rfl) _

theorem counts_ensureServer (backend : String) (wanted : Wire.Server) :
    Counts (c.ensureServer backend wanted) := by
  refine counts_find?.bind fun found => ?_
  cases found with
  | none => exact counts_written (.inl rfl) (fun _ => rfl) _
  | some current =>
    simp only
    split
    · exact counts_written (.inr rfl) (fun _ => rfl) _
    · exact counts_pure _

theorem counts_deleteServer (backend name : String) : Counts (c.deleteServer backend name) :=
  counts_delete fun _ => rfl

theorem counts_ensureServers (backend : String) (report : ServerReport)
    (wanted : List Wire.Server) : Counts (c.ensureServers backend report wanted) := by
  induction wanted generalizing report with
  | nil => exact counts_pure _
  | cons w ws ih => exact (counts_ensureServer backend w).bind fun _ => ih _

theorem counts_deleteServers (backend : String) (report : ServerReport) (names : List String) :
    Counts (c.deleteServers backend report names) := by
  induction names generalizing report with
  | nil => exact counts_pure _
  | cons name names ih => exact (counts_deleteServer backend name).bind fun _ => ih _

theorem counts_syncServers (backend : String) (wanted : List Wire.Server) :
    Counts (c.syncServers backend wanted) :=
  (counts_ensureServers backend .empty wanted).bind fun _ =>
    counts_list.bind fun _ => counts_deleteServers backend _ _

theorem counts_ensureBackend (wanted : Resolved) : Counts (c.ensureBackend wanted) :=
  (counts_ensureDefinition _).bind fun _ => (counts_ensureHttpChecks _ _).bind fun _ =>
    (counts_syncServers _ _).bind fun _ => counts_pure _

theorem counts_ensureFrontend (wanted : Wire.Frontend) : Counts (c.ensureFrontend wanted) := by
  refine counts_find?.bind fun found => ?_
  cases found with
  | none => exact counts_written (.inl rfl) (fun _ => rfl) _
  | some current =>
    simp only
    split
    · exact counts_fail _
    · split
      · exact counts_written (.inr rfl) (fun _ => rfl) _
      · exact counts_pure _

theorem counts_ensureBind (frontend : String) (wanted : Wire.Bind) :
    Counts (c.ensureBind frontend wanted) := by
  refine counts_list.bind fun binds => ?_
  split
  · exact counts_pure _
  · exact counts_written (.inl rfl) (fun _ => rfl) _

theorem counts_ensureRule (frontend : String) (wanted : Wire.SwitchingRule) :
    Counts (c.ensureRule frontend wanted) := by
  refine counts_list.bind fun rules => ?_
  split
  · exact counts_pure _
  · exact counts_written (.inr rfl) (fun _ => rfl) _

end DataPlane.Client

open SessionM DataPlane.Client

/-- Operations on the configuration count their failure and their granted writes. -/
theorem Configuring.counts (c : DataPlane.Client) (q : Configuring) : Counts (q.step c) := by
  cases q with
  | getBackend name => exact counts_find?
  | listBackends => exact counts_list.bind fun _ => counts_pure _
  | ensureDefinition wanted => exact counts_ensureDefinition wanted
  | deleteBackend name => exact counts_deleteBackend name
  | ensureBackend wanted => exact counts_ensureBackend wanted
  | getHttpChecks backend => exact counts_getHttpChecks backend
  | ensureHttpChecks backend wanted => exact counts_ensureHttpChecks backend wanted
  | getServer backend name => exact counts_find?
  | listServers backend => exact counts_list
  | ensureServer backend wanted => exact counts_ensureServer backend wanted
  | deleteServer backend name => exact counts_deleteServer backend name
  | syncServers backend wanted => exact counts_syncServers backend wanted
  | getFrontend name => exact counts_find?
  | ensureFrontend wanted => exact counts_ensureFrontend wanted
  | listBinds frontend => exact counts_list
  | ensureBind frontend wanted => exact counts_ensureBind frontend wanted
  | listRules frontend => exact counts_list
  | ensureRule frontend wanted => exact counts_ensureRule frontend wanted
  | deleteRule frontend index => exact counts_delete fun _ => rfl

/-! ## The operations about the transaction -/

namespace DataPlane.Client
variable {c : Client}

theorem counts_openTransaction : Counts c.openTransaction := by
  refine Owes.bind counts_get fun s => ?_
  split
  · exact counts_fail _
  · refine counts_version.bind fun v => counts_send_of_unwritten rfl fun a => ?_
    split
    · exact counts_fail _
    · split
      · exact (counts_decode c _ _ a).bind fun t => .set fun _ => counts_pure t
      · exact counts_refused _ a

/-- A request about the transaction is counted just if it succeeds. -/
theorem write?_transactions {m : Method} {segments : List String}
    {query : List (String × String)} {body : Option Json} {label : String × String}
    (hwrite : Request.write? ⟨m, ⟨.transactions, segments, query⟩, body⟩ = some label)
    (a : Response) :
    Sent.write? ⟨⟨m, ⟨.transactions, segments, query⟩, body⟩, .answered a.status a.body⟩ =
      if a.isSuccess then some label else none := by
  rw [Sent.write?, hwrite]
  rfl

theorem status_of_isSuccess {a : Response} (h : a.isSuccess = true) :
    200 ≤ a.status ∧ a.status < 300 := by
  simpa [Response.isSuccess, DataPlane.isSuccess] using h

theorem counts_commit : Counts c.commit := by
  refine Owes.bind counts_get fun s => ?_
  split
  · exact counts_fail _
  · refine counts_send fun a => ?_
    rw [write?_transactions rfl a]
    by_cases hok : a.isSuccess = true
    · have hrange := status_of_isSuccess hok
      rw [if_pos hok, if_neg (by omega), if_neg (by omega), if_neg (by omega), if_pos hok]
      exact .set fun _ => (owes_measure _ _).bind fun _ => counts_pure _
    · rw [if_neg hok, if_neg hok]
      split
      · exact counts_fail _
      · split
        · exact .modify fun _ => counts_fail _
        · split
          · exact counts_fail _
          · exact counts_refused _ a

theorem counts_discard : Counts c.discard := by
  refine Owes.bind counts_get fun s => ?_
  split
  · exact counts_fail _
  · refine .set fun _ => counts_send fun a => ?_
    rw [write?_transactions rfl a]
    by_cases hok : a.isSuccess = true
    · have hrange := status_of_isSuccess hok
      rw [if_pos hok, if_neg (by omega), if_pos hok]
      exact owes_measure _ _
    · rw [if_neg hok, if_neg hok]
      split
      · exact counts_fail _
      · exact counts_refused _ a

theorem counts_close : Counts c.close := by
  refine Owes.bind counts_get fun s => ?_
  split
  · exact counts_fail _
  · split
    · exact counts_commit.bind fun _ => counts_pure _
    · exact counts_discard.bind fun _ => counts_pure _

/-- Giving up is discarding, whatever comes of it, where a transaction is open. -/
theorem start_abort (s : Session) : c.abort.start s =
    if s.transaction.isSome then c.discard.start s >>= fun p => .done (.ok (), p.2)
    else .done (.ok (), s) := by
  have hstart : c.abort.start s =
      (if s.transaction.isSome then tryCatch c.discard fun _ => pure () else pure ()).start s := rfl
  rw [hstart]
  split
  · rw [start_tryCatch]
    refine congrArg (c.discard.start s >>= ·) (funext fun p => ?_)
    rcases p with ⟨_ | _, _⟩ <;> rfl
  · rfl

end DataPlane.Client

/-- Operations other than giving up count their failure and their granted writes. -/
theorem Operation.counts (c : DataPlane.Client) {op : Operation} (h : op ≠ .abort) :
    Counts (op.step c) := by
  cases op with
  | openTransaction => exact counts_openTransaction
  | commit => exact counts_commit
  | discard => exact counts_discard
  | close => exact counts_close
  | abort => exact absurd rfl h
  | configure q => exact q.counts c

namespace DataPlane.Client
variable {σ : Type} {c : Client} {s s' : Session} {sent : List Sent}

theorem isOk_committedIn (t : Wire.Transaction) (a : Response) :
    (committedIn t a).isOk = a.isSuccess := by
  rw [committedIn]
  by_cases hok : a.isSuccess = true
  · have hrange := status_of_isSuccess hok
    rw [if_neg (by omega), if_neg (by omega), if_neg (by omega), if_pos hok, hok]
    rfl
  · rw [if_neg hok, Bool.eq_false_iff.2 hok]
    repeat' split
    all_goals rfl

theorem isOk_discardedIn (t : Wire.Transaction) (a : Response) :
    (discardedIn t a).isOk = a.isSuccess := by
  rw [discardedIn]
  by_cases hok : a.isSuccess = true
  · have hrange := status_of_isSuccess hok
    rw [if_neg (by omega), if_pos hok, hok]
    rfl
  · rw [if_neg hok, Bool.eq_false_iff.2 hok]
    split <;> rfl

/-- One request about the transaction, whose success is that of the step, is counted just if the
step succeeds. -/
theorem filterMap_transactions {α : Type} {m : Method} {segments : List String}
    {query : List (String × String)} {body : Option Json} {label : String × String}
    {judge : Response → Except ClientError α}
    (hwrite : Request.write? ⟨m, ⟨.transactions, segments, query⟩, body⟩ = some label)
    (hjudge : ∀ a, (judge a).isOk = a.isSuccess) (reply : Reply) :
    [Sent.mk ⟨m, ⟨.transactions, segments, query⟩, body⟩ reply].filterMap Sent.write? =
      if ((c.received ⟨.transactions, segments, query⟩ reply).bind judge).isOk then [label]
      else [] := by
  cases reply with
  | lost cause => simp [Sent.write?_lost, received, Except.bind, Except.isOk, Except.toBool]
  | answered status body =>
    have hsent := write?_transactions hwrite ⟨status, body⟩
    have hok := hjudge ⟨status, body⟩
    simp only [List.filterMap_cons, List.filterMap_nil, hsent, received, Except.bind, hok]
    split <;> simp_all

theorem trace_abort (env : Environment DataPlane.interface σ) (s : Session) (w : σ) :
    (c.abort.start s).trace env w =
      if s.transaction.isSome then (c.discard.start s).trace env w else [] := by
  rw [start_abort]
  split
  · rw [Dialogue.trace_bind, Dialogue.trace_done, List.append_nil]
  · rfl

/-- A commit is counted just if it succeeds. -/
theorem filterMap_commit {r : Except ClientError Wire.Transaction}
    (h : Conduct c.commit s sent r s') :
    sent.filterMap Sent.write? = if r.isOk then [("transaction", "commit")] else [] := by
  cases ht : s.transaction with
  | none =>
    obtain ⟨rfl, rfl, -⟩ := (conduct_commit_closed ht).1 h
    rfl
  | some t =>
    obtain ⟨reply, rfl, rfl, -⟩ := (conduct_commit ht).1 h
    exact filterMap_transactions rfl (isOk_committedIn t) reply

/-- So is a discard. -/
theorem filterMap_discard {r : Except ClientError Unit} (h : Conduct c.discard s sent r s') :
    sent.filterMap Sent.write? = if r.isOk then [("transaction", "discard")] else [] := by
  cases ht : s.transaction with
  | none =>
    obtain ⟨rfl, rfl, -⟩ := (conduct_discard_closed ht).1 h
    rfl
  | some t =>
    obtain ⟨reply, rfl, rfl, -⟩ := (conduct_discard ht).1 h
    exact filterMap_transactions rfl (isOk_discardedIn t) reply

/-- In every environment an operation counts one failure if it fails, by its category, and none
otherwise; giving up counts the failure of its discarding. And every operation counts its granted
writes, each once and in order: among them are the commits and discards that succeed. -/
theorem counted_once (c : Client) (env : Environment DataPlane.interface σ) (s : Session) (w : σ) :
    let trace (op : Operation) := ((op.step c).start s).trace env w
    let result (op : Operation) := (((op.step c).start s).run env w).1.1
    (∀ op, op ≠ .abort → Measurement.failures (trace op) = ClientError.raised (result op)) ∧
    (Measurement.failures (trace .abort) =
      if s.transaction.isSome then ClientError.raised (result .discard) else []) ∧
    (∀ op, Measurement.writes (trace op) = (Sent.ofTrace (trace op)).filterMap Sent.write?) ∧
    (Measurement.writes (trace .commit) =
      if (result .commit).isOk then [("transaction", "commit")] else []) ∧
    (Measurement.writes (trace .discard) =
      if (result .discard).isOk then [("transaction", "discard")] else []) := by
  intro trace result
  have hcounts (op : Operation) (hop : op ≠ .abort) :
      Measurement.failures (trace op) = ClientError.raised (result op) ∧
      Measurement.writes (trace op) = (Sent.ofTrace (trace op)).filterMap Sent.write? :=
    op.counts c hop _ _ _ _ (Dialogue.leads_run env _ w)
  have habort : trace .abort = if s.transaction.isSome then trace .discard else [] :=
    trace_abort env s w
  refine ⟨fun op hop => (hcounts op hop).1, ?_, fun op => ?_, ?_, ?_⟩
  · rw [habort]
    split
    · exact (hcounts .discard nofun).1
    · rfl
  · by_cases hop : op = .abort
    · rw [hop, habort]
      split
      · exact (hcounts .discard nofun).2
      · rfl
    · exact (hcounts op hop).2
  · rw [(hcounts .commit nofun).2]
    exact filterMap_commit (conduct_run env _ s w)
  · rw [(hcounts .discard nofun).2]
    exact filterMap_discard (conduct_run env _ s w)

end DataPlane.Client
end ProxySync
