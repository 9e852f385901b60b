import ProxySync.Proofs.Session.Requests
import ProxySync.Session.Backends
/-!
# Stages of a pass

What a pass does inside its transaction is a list of configuration requests, every one of them
scoped by the transaction alone. A stage ends at the first request that does not get what the pass
needs; a stage that ends well has got it from every one. Accepted writes, and nothing else, make
the session dirty.

## Main definitions

* `Sent.succeeds`: a configuration request got what the pass needs to go on.
* `Stage`: a list of such requests up to the first failure.

## Main statements

* `Client.staged_ensureBackend`, `Client.staged_deleteBackend`: what a pass does between opening
  and closing its transaction is a stage.
-/
namespace ProxySync

namespace DataPlane

/-- Whether a reply is an answer with a body that can be read as asked for. -/
def Reply.tells {α : Type} (read : Json → Option α) : Reply → Option α
  | .lost _ => none
  | .answered status body => if isSuccess status then (Json.parse? body).bind read else none

/-- The status of a reply that arrived. -/
def Reply.status? : Reply → Option Nat
  | .lost _ => none
  | .answered status _ => some status

/-- Whether a reply accepts the request. -/
def Reply.isAccepted (r : Reply) : Bool := r.status?.any isSuccess

/-- Whether a reply says that there is no such object. -/
def Reply.isAbsent (r : Reply) : Bool := r.status? == some 404

end DataPlane

/-- Whether a configuration request got what a pass needs to go on: reading a backend that is absent
or belongs to this program; reading a check list or a server that is absent or can be read; reading
a list of servers that can be read; a deletion that was accepted or of what is absent; and any other
request that was accepted. -/
def Sent.succeeds (x : Sent) : Bool :=
  match x.request.method, x.request.endpoint.segments with
  | .get, ["backends", _] =>
    x.reply.isAbsent || (x.reply.tells Wire.Backend.ofJson?).any (·.isManaged)
  | .get, ["backends", _, "http_checks"] =>
    x.reply.isAbsent || (x.reply.tells (Json.list? Wire.HttpCheck.ofJson?)).isSome
  | .get, ["backends", _, "servers"] => (x.reply.tells (Json.list? Wire.Server.ofJson?)).isSome
  | .get, ["backends", _, "servers", _] =>
    x.reply.isAbsent || (x.reply.tells Wire.Server.ofJson?).isSome
  | .delete, _ => x.reply.isAbsent || x.reply.isAccepted
  | _, _ => x.reply.isAccepted

/-- A configuration request with the transaction as its one query parameter. -/
def ScopedBy (t : Wire.Transaction) (q : DataPlane.Request) : Prop :=
  q.endpoint.area = .configuration ∧ q.endpoint.query = [("transaction_id", t.id)]

/-- Requests of a session inside a transaction, up to the first that fails. -/
structure Stage (t : Wire.Transaction) (s : Session) (sent : List Sent) (ok : Bool)
    (s' : Session) : Prop where
  inScope : ∀ x ∈ sent, ScopedBy t x.request
  session : s' = s.marked (sent.any (·.changes))
  succeeded : ok = true → ∀ x ∈ sent, x.succeeds = true
  failed : ok = false → ∃ front last, sent = front ++ [last] ∧
    (∀ x ∈ front, x.succeeds = true) ∧ last.succeeds = false

namespace Stage
variable {t : Wire.Transaction} {s s₁ s' : Session} {sent₁ sent₂ : List Sent} {ok : Bool}

theorem nil : Stage t s [] true s where
  inScope := by simp
  session := by simp
  succeeded := by simp
  failed := by simp

theorem single {x : Sent} (h : ScopedBy t x.request) :
    Stage t s [x] x.succeeds (s.marked x.changes) where
  inScope := by simpa using h
  session := by simp
  succeeded := by simp
  failed hx := ⟨[], x, rfl, by simp, hx⟩

/-- A stage goes on where one ended well. -/
theorem append (h₁ : Stage t s sent₁ true s₁) (h₂ : Stage t s₁ sent₂ ok s') :
    Stage t s (sent₁ ++ sent₂) ok s' where
  inScope x hx := (List.mem_append.1 hx).elim (h₁.inScope x) (h₂.inScope x)
  session := by
    rw [h₂.session, h₁.session, Session.marked_marked, List.any_append]
  succeeded hok x hx := (List.mem_append.1 hx).elim (h₁.succeeded rfl x) (h₂.succeeded hok x)
  failed hok := by
    obtain ⟨front, last, rfl, hfront, hlast⟩ := h₂.failed hok
    refine ⟨sent₁ ++ front, last, (List.append_assoc ..).symm, fun x hx => ?_, hlast⟩
    exact (List.mem_append.1 hx).elim (h₁.succeeded rfl x) (hfront x)

end Stage

namespace DataPlane.Client
open SessionM
variable {α β : Type} {c : Client} {t : Wire.Transaction}

/-- Inside the transaction the step is a stage, which ends well if the step does. -/
def Staged (t : Wire.Transaction) (x : SessionM α) : Prop :=
  ∀ s sent r s', s.transaction = some t → Conduct x s sent r s' → Stage t s sent r.isOk s'

theorem staged_pure (a : α) : Staged t (pure a) := by
  intro s sent r s' _ h
  obtain ⟨rfl, rfl, rfl⟩ := conduct_pure.1 h
  exact .nil

theorem Staged.bind {x : SessionM α} {f : α → SessionM β} (hx : Staged t x)
    (hf : ∀ a, Staged t (f a)) : Staged t (x >>= f) := by
  intro s sent r s' ht h
  obtain ⟨_, _, a, s₁, rfl, h₁, h₂⟩ | ⟨e, rfl, h₁⟩ := conduct_bind.1 h
  · have hfirst := hx _ _ _ _ ht h₁
    have ht₁ : s₁.transaction = some t := by rw [hfirst.session]; exact ht
    exact hfirst.append (hf a _ _ _ _ ht₁ h₂)
  · exact hx _ _ _ _ ht h₁

/-- One configuration request is a stage, if its failures are those of the step. -/
theorem Poses.staged {x : SessionM α} {method : Method} {segments : List String}
    {body : Option Json} {judge : Response → Except ClientError α}
    (hx : Poses c x method segments body judge)
    (hj : ∀ q reply, Sent.succeeds ⟨scopedRequest method segments body q, reply⟩ =
      ((c.received (scopedRequest method segments body q).endpoint reply).bind judge).isOk) :
    Staged t x := by
  intro s sent r s' ht h
  obtain ⟨reply, rfl, rfl, rfl⟩ := (hx.conduct_open ht).1 h
  rw [← hj]
  exact .single ⟨rfl, rfl⟩

theorem isOk_readIn (c : Client) (what : String) (read : Json → Option α) (status : Nat)
    (body : String) (h : isSuccess status = true) :
    (c.readIn what read ⟨status, body⟩).isOk =
      (Reply.tells read (.answered status body)).isSome := by
  simp only [readIn, Reply.tells, h, if_true]
  cases (Json.parse? body).bind read <;> rfl

/-- Looking for an object goes well if it is absent or can be read. -/
theorem isOk_found (e : Endpoint) (operation what : String) (read : Json → Option α)
    (reply : Reply) : ((c.received e reply).bind (c.foundIn operation what read)).isOk =
      (reply.isAbsent || (reply.tells read).isSome) := by
  cases reply with
  | lost cause => rfl
  | answered status body =>
    simp only [received, Except.bind, foundIn, Reply.isAbsent, Reply.status?]
    by_cases h404 : status = 404
    · simp [h404, Except.isOk, Except.toBool]
    · cases hs : isSuccess status with
      | true =>
        rw [← isOk_readIn c what read status body hs]
        simp only [h404, if_false, Response.isSuccess, hs, if_true]
        cases c.readIn what read ⟨status, body⟩ <;>
          simp [h404, Except.map, Except.isOk, Except.toBool]
      | false => simp [h404, Response.isSuccess, hs, Reply.tells, Except.isOk, Except.toBool]

/-- An answer with the object asked for does not say that there is none. -/
theorem not_isAbsent_of_tells {read : Json → Option α} {reply : Reply} {x : α}
    (h : reply.tells read = some x) : reply.isAbsent = false := by
  cases reply with
  | lost cause => rfl
  | answered status body =>
    by_cases h404 : status = 404
    · subst h404
      exact absurd h (by simp [Reply.tells, isSuccess])
    · simp [Reply.isAbsent, Reply.status?, h404]

/-- What looking for an object finds. -/
theorem of_found {e : Endpoint} {operation what : String} {read : Json → Option α} {reply : Reply}
    {found : Option α}
    (h : Except.ok found = (c.received e reply).bind (c.foundIn operation what read)) :
    (found = none ∧ reply.isAbsent = true) ∨ found = reply.tells read ∧ found.isSome := by
  cases reply with
  | lost cause => cases h
  | answered status body =>
    simp only [received, Except.bind, foundIn, Reply.isAbsent, Reply.status?] at h ⊢
    by_cases h404 : status = 404
    · simp only [h404, if_true, Except.ok.injEq] at h
      exact .inl ⟨h, by simp [h404]⟩
    · by_cases hs : isSuccess status = true
      · simp only [h404, if_false, Response.isSuccess, hs, if_true, readIn] at h
        simp only [Reply.tells, hs, if_true]
        cases hj : (Json.parse? body).bind read with
        | none => rw [hj] at h; cases h
        | some x => rw [hj] at h; cases h; exact .inr ⟨rfl, rfl⟩
      · simp [h404, Response.isSuccess, hs] at h

/-- What looking through a list finds. -/
theorem of_listed {e : Endpoint} {operation what : String} {read : Json → Option α} {reply : Reply}
    {found : List α}
    (h : Except.ok found = (c.received e reply).bind (c.listedIn operation what read)) :
    reply.tells (Json.list? read) = some found := by
  cases reply with
  | lost cause => cases h
  | answered status body =>
    simp only [received, Except.bind, listedIn] at h
    by_cases hs : isSuccess status = true
    · simp only [Response.isSuccess, hs, if_true, readIn] at h
      simp only [Reply.tells, hs, if_true]
      cases hj : (Json.parse? body).bind (Json.list? read) with
      | none => rw [hj] at h; cases h
      | some xs => rw [hj] at h; cases h; rfl
    · simp [Response.isSuccess, hs] at h

/-- What is noted of a server when its deletion has been answered. -/
def removal (reply : Reply) : Change := if reply.accepts .delete then .deleted else .unchanged

/-- A deletion that went well has this effect. -/
theorem of_deleted {e : Endpoint} {operation : String} {change : Change} {reply : Reply}
    (h : Except.ok change = (c.received e reply).bind (deletedIn operation)) :
    change = removal reply := by
  cases reply with
  | lost cause => cases h
  | answered status body =>
    simp only [received, Except.bind, deletedIn] at h
    by_cases h404 : status = 404
    · subst h404
      cases h
      rfl
    · by_cases hdeleted : status = 200 ∨ status = 202 ∨ status = 204
      · rw [if_neg h404, if_pos hdeleted, Except.ok.injEq] at h
        simpa [removal, Reply.accepts, or_assoc, hdeleted] using h
      · rw [if_neg h404, if_neg hdeleted] at h
        split at h
        · rw [Except.ok.injEq] at h
          simpa [removal, Reply.accepts, or_assoc, hdeleted] using h
        · cases h

theorem isOk_listed (e : Endpoint) (operation what : String) (read : Json → Option α)
    (reply : Reply) : ((c.received e reply).bind (c.listedIn operation what read)).isOk =
      (reply.tells (Json.list? read)).isSome := by
  cases reply with
  | lost cause => rfl
  | answered status body =>
    simp only [received, Except.bind, listedIn]
    cases hs : isSuccess status with
    | true => rw [← isOk_readIn c what _ status body hs]; simp [Response.isSuccess, hs]
    | false => simp [Response.isSuccess, hs, Reply.tells, Except.isOk, Except.toBool]

theorem isOk_written (e : Endpoint) (operation : String) (reply : Reply) :
    ((c.received e reply).bind (writtenIn operation)).isOk = reply.isAccepted := by
  cases reply with
  | lost cause => rfl
  | answered status body =>
    simp only [received, Except.bind, writtenIn, Reply.isAccepted, Reply.status?,
      Response.isSuccess]
    by_cases hs : isSuccess status = true <;> simp [hs, Except.isOk, Except.toBool]

theorem isOk_deleted (e : Endpoint) (operation : String) (reply : Reply) :
    ((c.received e reply).bind (deletedIn operation)).isOk =
      (reply.isAbsent || reply.isAccepted) := by
  cases reply with
  | lost cause => rfl
  | answered status body =>
    simp only [received, Except.bind, deletedIn, Reply.isAbsent, Reply.isAccepted, Reply.status?,
      Response.isSuccess]
    by_cases h404 : status = 404
    · simp [h404, Except.isOk, Except.toBool]
    · by_cases hd : status = 200 ∨ status = 202 ∨ status = 204
      · have hs : isSuccess status = true := by rcases hd with rfl | rfl | rfl <;> rfl
        simp [h404, hd, hs, Except.isOk, Except.toBool]
      · by_cases hs : isSuccess status = true <;>
          simp [h404, hd, hs, Except.isOk, Except.toBool]

/-! ## The steps of a pass -/

/-- Looking at a backend and going on only if it is absent or belongs to this program. -/
theorem staged_look {name : String} {e : ClientError} {absent : SessionM α}
    {present : Wire.Backend → SessionM α} (h₀ : Staged t absent)
    (h₁ : ∀ b, Staged t (present b)) :
    Staged t (c.getBackend name >>= fun found => match found with
      | none => absent
      | some b => if !b.isManaged then SessionM.fail e else present b) := by
  intro s sent r s' ht h
  obtain ⟨sent₁, sent₂, found, s₁, rfl, hget, h⟩ | ⟨e', rfl, hget⟩ := conduct_bind.1 h
  · obtain ⟨reply, rfl, hr, rfl⟩ := (poses_find?.conduct_open ht).1 hget
    have hlook := Stage.single (t := t) (s := s)
      (x := ⟨scopedRequest .get ["backends", name] none ("transaction_id", t.id), reply⟩) ⟨rfl, rfl⟩
    rcases of_found hr with ⟨rfl, habs⟩ | ⟨hfound, hsome⟩
    · rw [show Sent.succeeds _ = true by simp [Sent.succeeds, scopedRequest, habs]] at hlook
      exact hlook.append (h₀ _ _ _ _ ht h)
    · obtain ⟨b, rfl⟩ := Option.isSome_iff_exists.1 hsome
      cases hb : b.isManaged with
      | true =>
        rw [show Sent.succeeds _ = true by
          simp [Sent.succeeds, scopedRequest, ← hfound, hb]] at hlook
        simp only [hb, Bool.not_true, Bool.false_eq_true, if_false] at h
        exact hlook.append (h₁ b _ _ _ _ ht h)
      | false =>
        have habs := not_isAbsent_of_tells hfound.symm
        rw [show Sent.succeeds _ = false by
          simp [Sent.succeeds, scopedRequest, ← hfound, hb, habs]] at hlook
        simp only [hb, Bool.not_false, if_true] at h
        obtain ⟨rfl, rfl, rfl⟩ := conduct_fail.1 h
        exact hlook
  · obtain ⟨reply, rfl, hr, rfl⟩ := (poses_find?.conduct_open ht).1 hget
    have hlook := Stage.single (t := t) (s := s)
      (x := ⟨scopedRequest .get ["backends", name] none ("transaction_id", t.id), reply⟩) ⟨rfl, rfl⟩
    have hno := congrArg Except.isOk hr
    rw [isOk_found, eq_comm, show (Except.error e').isOk = false from rfl,
      Bool.or_eq_false_iff] at hno
    have hnone : reply.tells Wire.Backend.ofJson? = none := by simpa using hno.2
    rw [show Sent.succeeds _ = false by
      simp [Sent.succeeds, scopedRequest, hno.1, hnone]] at hlook
    exact hlook

/-- An accepted write gives the value that was waiting for it. -/
theorem staged_write {method : Method} {segments : List String} {body : Json}
    {operation resource change : String} (hm : method = .post ∨ method = .put) (a : α) :
    Staged t (c.write method segments body operation resource change >>= fun _ => pure a) := by
  refine ((poses_write hm).staged fun q reply => ?_).bind fun _ => staged_pure a
  rw [isOk_written]
  rcases hm with rfl | rfl <;> rfl

theorem staged_delete {segments : List String} {operation resource : String} :
    Staged t (c.delete segments operation resource) :=
  poses_delete.staged fun _ _ => by rw [isOk_deleted]; rfl

theorem staged_ensureDefinition (wanted : Wire.Backend) :
    Staged t (c.ensureDefinition wanted) := by
  apply staged_look (staged_write (.inl rfl) _)
  intro current
  split
  · exact staged_write (.inr rfl) _
  · exact staged_pure _

theorem staged_deleteBackend (name : String) : Staged t (c.deleteBackend name) :=
  staged_look (staged_pure _) fun _ => staged_delete

theorem staged_ensureHttpChecks (backend : String) (wanted : List Wire.HttpCheck) :
    Staged t (c.ensureHttpChecks backend wanted) := by
  have hget : Staged t (c.getHttpChecks backend) :=
    (poses_find?.staged fun _ _ => by rw [isOk_found]; rfl).bind fun _ => staged_pure _
  apply hget.bind
  intro current
  split
  · exact staged_pure _
  · exact staged_write (.inr rfl) _

theorem staged_ensureServer (backend : String) (wanted : Wire.Server) :
    Staged t (c.ensureServer backend wanted) := by
  have hget : Staged t (c.getServer backend wanted.name) :=
    poses_find?.staged fun _ _ => by rw [isOk_found]; rfl
  apply hget.bind
  intro found
  cases found with
  | none => exact staged_write (.inl rfl) _
  | some current =>
    simp only
    split
    · exact staged_write (.inr rfl) _
    · exact staged_pure _

theorem staged_ensureServers (backend : String) (report : ServerReport)
    (wanted : List Wire.Server) : Staged t (c.ensureServers backend report wanted) := by
  induction wanted generalizing report with
  | nil => exact staged_pure _
  | cons w ws ih => exact (staged_ensureServer backend w).bind fun change => ih _

theorem staged_deleteServers (backend : String) (report : ServerReport) (names : List String) :
    Staged t (c.deleteServers backend report names) := by
  induction names generalizing report with
  | nil => exact staged_pure _
  | cons name names ih => exact staged_delete.bind fun change => ih _

theorem staged_syncServers (backend : String) (wanted : List Wire.Server) :
    Staged t (c.syncServers backend wanted) := by
  have hlist : Staged t (c.listServers backend) :=
    poses_list.staged fun _ _ => by rw [isOk_listed]; rfl
  exact (staged_ensureServers backend .empty wanted).bind fun _ =>
    hlist.bind fun _ => staged_deleteServers backend _ _

/-- Making a backend the wanted one is a stage. -/
theorem staged_ensureBackend (r : Resolved) : Staged t (c.ensureBackend r) :=
  (staged_ensureDefinition _).bind fun _ =>
    (staged_ensureHttpChecks _ _).bind fun _ =>
      (staged_syncServers _ _).bind fun _ => staged_pure _

end DataPlane.Client
end ProxySync
