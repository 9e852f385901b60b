import ProxySync.Proofs.Session.Questions
import ProxySync.Session.Frontends
/-!
# The operations of a session

A session is used through its operations, one after the other, in any order. Five of them are about
the transaction; all others come down to configuration requests, with nothing between them that the
session would remember. A history notes of every operation the session it found, the requests it
made with their replies, its result and the session it left.

The operations of a history are a list and the Data Plane is any environment, so a caller that
chooses its next operation by what came before is covered: whatever it chose is some list.

## Main definitions

* `Configuring`, `Operation`: what a session can be asked to do.
* `Client.Configures`: a step made of configuration requests.
* `Performed`, `Client.History`: an operation that was performed, and operations that were performed
  one after the other.
* `Client.performed`: the history of a list of operations in an environment.

## Main statements

* `Configuring.configures`: every operation beside those about the transaction is such a step.
* `Client.Configures.session`: it makes the session dirty by its accepted writes, and does nothing
  else to it.
* `Client.history_performed`: what is performed is a history.
* `Client.History.latched`: a sign that some operations set and others clear.
-/
namespace ProxySync

/-- The operations on the configuration. -/
inductive Configuring where
  | getBackend (name : String)
  | listBackends
  | ensureDefinition (wanted : Wire.Backend)
  | deleteBackend (name : String)
  | ensureBackend (wanted : Resolved)
  | getHttpChecks (backend : String)
  | ensureHttpChecks (backend : String) (wanted : List Wire.HttpCheck)
  | getServer (backend name : String)
  | listServers (backend : String)
  | ensureServer (backend : String) (wanted : Wire.Server)
  | deleteServer (backend name : String)
  | syncServers (backend : String) (wanted : List Wire.Server)
  | getFrontend (name : String)
  | ensureFrontend (wanted : Wire.Frontend)
  | listBinds (frontend : String)
  | ensureBind (frontend : String) (wanted : Wire.Bind)
  | listRules (frontend : String)
  | ensureRule (frontend : String) (wanted : Wire.SwitchingRule)
  | deleteRule (frontend : String) (index : Nat)

/-- The operations of a session. -/
inductive Operation where
  | openTransaction
  | commit
  | discard
  | close
  | abort
  | configure (q : Configuring)

/-- What an operation on the configuration returns. -/
def Configuring.Value : Configuring → Type
  | getBackend _ => Option Wire.Backend
  | listBackends => List Wire.Backend
  | getHttpChecks _ => List Wire.HttpCheck
  | getServer _ _ => Option Wire.Server
  | listServers _ => List Wire.Server
  | getFrontend _ => Option Wire.Frontend
  | listBinds _ => List Wire.Bind
  | listRules _ => List Wire.SwitchingRule
  | ensureBackend _ => SyncReport
  | syncServers _ _ => ServerReport
  | ensureDefinition _ | deleteBackend _ | ensureHttpChecks _ _ | ensureServer _ _
  | deleteServer _ _ | ensureFrontend _ | ensureBind _ _ | ensureRule _ _ | deleteRule _ _ => Change

/-- What an operation returns. -/
def Operation.Value : Operation → Type
  | openTransaction => Wire.Transaction
  | commit => Wire.Transaction
  | discard => Unit
  | close => Closing
  | abort => Unit
  | configure q => q.Value

open DataPlane (Client)
open DataPlane.Client

/-- What an operation on the configuration does. -/
def Configuring.step (c : Client) : (q : Configuring) → SessionM q.Value
  | getBackend name => c.getBackend name
  | listBackends => c.listBackends
  | ensureDefinition wanted => c.ensureDefinition wanted
  | deleteBackend name => c.deleteBackend name
  | ensureBackend wanted => c.ensureBackend wanted
  | getHttpChecks backend => c.getHttpChecks backend
  | ensureHttpChecks backend wanted => c.ensureHttpChecks backend wanted
  | getServer backend name => c.getServer backend name
  | listServers backend => c.listServers backend
  | ensureServer backend wanted => c.ensureServer backend wanted
  | deleteServer backend name => c.deleteServer backend name
  | syncServers backend wanted => c.syncServers backend wanted
  | getFrontend name => c.getFrontend name
  | ensureFrontend wanted => c.ensureFrontend wanted
  | listBinds frontend => c.listBinds frontend
  | ensureBind frontend wanted => c.ensureBind frontend wanted
  | listRules frontend => c.listRules frontend
  | ensureRule frontend wanted => c.ensureRule frontend wanted
  | deleteRule frontend index => c.deleteRule frontend index

/-- What an operation does. -/
def Operation.step (c : Client) : (op : Operation) → SessionM op.Value
  | openTransaction => c.openTransaction
  | commit => c.commit
  | discard => c.discard
  | close => c.close
  | abort => c.abort
  | configure q => q.step c

namespace DataPlane.Client
open SessionM
variable {c : Client} {s s' : Session} {sent : List Sent}

/-! ## The operations about the transaction -/

/-- Where a transaction is open, no other is opened. -/
theorem conduct_openTransaction_open {t : Wire.Transaction} (ht : s.transaction = some t)
    {r : Except ClientError Wire.Transaction} :
    Conduct c.openTransaction s sent r s' ↔
      sent = [] ∧ r = .error (.transactionAlreadyOpen t.id) ∧ s' = s := by
  rw [openTransaction, conduct_get_bind, ht]
  exact conduct_fail

theorem conduct_commit_closed (ht : s.transaction = none)
    {r : Except ClientError Wire.Transaction} :
    Conduct c.commit s sent r s' ↔ sent = [] ∧ r = .error .noOpenTransaction ∧ s' = s := by
  rw [commit, conduct_get_bind, ht]
  exact conduct_fail

theorem conduct_discard_closed (ht : s.transaction = none) {r : Except ClientError Unit} :
    Conduct c.discard s sent r s' ↔ sent = [] ∧ r = .error .noOpenTransaction ∧ s' = s := by
  rw [discard, conduct_get_bind, ht]
  exact conduct_fail

theorem conduct_close_closed (ht : s.transaction = none) {r : Except ClientError Closing} :
    Conduct c.close s sent r s' ↔ sent = [] ∧ r = .error .noOpenTransaction ∧ s' = s := by
  rw [close, conduct_get_bind, if_pos (by rw [ht]; rfl)]
  exact conduct_fail

/-- After giving up no transaction is open. -/
theorem session_of_abort {r : Except ClientError Unit} (h : Conduct c.abort s sent r s') :
    s' = if s.transaction.isSome then .fresh else s := by
  rw [abort, conduct_get_bind] at h
  cases ht : s.transaction with
  | none =>
    rw [ht] at h
    exact (conduct_pure.1 h).2.2
  | some t =>
    rw [ht] at h
    obtain ⟨_, _, hd⟩ | ⟨_, _, _, _, _, hd, hp⟩ := conduct_tryCatch.1 h
    · exact ((conduct_discard ht).1 hd).choose_spec.2.2
    · obtain ⟨_, _, rfl⟩ := conduct_pure.1 hp
      exact ((conduct_discard ht).1 hd).choose_spec.2.2

/-- Opening changes the session if it goes well, and only then. -/
theorem session_of_openTransaction {r : Except ClientError Wire.Transaction}
    (h : Conduct c.openTransaction s sent r s') : s' = s.opened r := by
  cases ht : s.transaction with
  | some t =>
    obtain ⟨_, rfl, rfl⟩ := (conduct_openTransaction_open ht).1 h
    rfl
  | none =>
    obtain ⟨_, ⟨_, _, _, rfl, hs⟩ | ⟨_, _, _, _, _, hs⟩⟩ := conduct_openTransaction ht h
    · exact hs
    · exact hs

/-! ## Steps made of configuration requests -/

/-- A step made of configuration requests. -/
inductive Configures (c : Client) : {α : Type} → SessionM α → Prop
  | pure {α : Type} (a : α) : Configures c (pure a : SessionM α)
  | fail {α : Type} (e : ClientError) : Configures c (SessionM.fail e : SessionM α)
  | request {α : Type} {x : SessionM α} {method : Method} {segments : List String}
      {body : Option Json} {judge : Response → Except ClientError α}
      (h : Poses c x method segments body judge) : Configures c x
  | bind {α β : Type} {x : SessionM α} {f : α → SessionM β} (hx : Configures c x)
      (hf : ∀ a, Configures c (f a)) : Configures c (x >>= f)

theorem Poses.session {α : Type} {x : SessionM α} {method : Method} {segments : List String}
    {body : Option Json} {judge : Response → Except ClientError α} {r : Except ClientError α}
    (hx : Poses c x method segments body judge) (h : Conduct x s sent r s') :
    s' = s.marked (sent.any (·.changes)) := by
  have hscope {sent : List Sent} {r : Except ClientError (String × String)}
      (h : Conduct c.scope s sent r s) : sent.any (·.changes) = false := by
    have hget := only_scope (P := fun q => q.method = .get) rfl _ _ _ _ h
    refine List.any_eq_false.2 fun y hy => ?_
    rw [Sent.changes_of_get (hget y hy)]
    exact Bool.false_ne_true
  obtain ⟨_, _, h₀⟩ | ⟨sent₀, q, reply, rfl, h₀, _, rfl⟩ := (hx _ _ _ _).1 h
  · obtain rfl := session_of_scope h₀
    rw [hscope h₀, Session.marked_false]
  · rw [List.any_append, hscope h₀]
    simp

namespace Configures
variable {α : Type} {x : SessionM α} {r : Except ClientError α}

/-- Accepted writes, and nothing else, make the session dirty, and nothing else happens to it. -/
theorem session (hx : Configures c x) (h : Conduct x s sent r s') :
    s' = s.marked (sent.any (·.changes)) := by
  induction hx generalizing s sent s' with
  | pure a =>
    obtain ⟨rfl, _, rfl⟩ := conduct_pure.1 h
    simp
  | fail e =>
    obtain ⟨rfl, _, rfl⟩ := conduct_fail.1 h
    simp
  | request hx => exact hx.session h
  | bind hx hf ihx ihf =>
    obtain ⟨sent₁, sent₂, a, s₁, rfl, h₁, h₂⟩ | ⟨_, _, h₁⟩ := conduct_bind.1 h
    · obtain rfl := ihx h₁
      rw [ihf a h₂, Session.marked_marked, List.any_append]
    · exact ihx h₁

/-- Every request is one for the configuration. -/
theorem area (hx : Configures c x) : Only (·.endpoint.area = .configuration) x := by
  induction hx with
  | pure a => exact only_pure a
  | fail e => exact only_fail e
  | request hx => exact hx.only rfl fun _ => rfl
  | bind hx hf ihx ihf => exact ihx.bind ihf

end Configures

/-! ### The operations on the configuration -/

/-- A write whose acceptance gives a value. -/
theorem configures_written {α : Type} {method : Method} {segments : List String} {body : Json}
    {operation resource change : String} (hm : method = .post ∨ method = .put) (a : α) :
    c.Configures (c.write method segments body operation resource change >>= fun _ => pure a) :=
  .bind (.request (poses_write hm)) fun _ => .pure a

theorem configures_ensureDefinition (wanted : Wire.Backend) :
    c.Configures (c.ensureDefinition wanted) := by
  apply Configures.bind (.request poses_find?)
  intro found
  cases found with
  | none => exact configures_written (.inl rfl) _
  | some current =>
    simp only
    split
    · exact .fail _
    · split
      · exact configures_written (.inr rfl) _
      · exact .pure _

theorem configures_deleteBackend (name : String) : c.Configures (c.deleteBackend name) := by
  apply Configures.bind (.request poses_find?)
  intro found
  cases found with
  | none => exact .pure _
  | some current =>
    simp only
    split
    · exact .fail _
    · exact .request poses_delete

theorem configures_getHttpChecks (backend : String) : c.Configures (c.getHttpChecks backend) :=
  .bind (.request poses_find?) fun _ => .pure _

theorem configures_ensureHttpChecks (backend : String) (wanted : List Wire.HttpCheck) :
    c.Configures (c.ensureHttpChecks backend wanted) := by
  apply Configures.bind (configures_getHttpChecks backend)
  intro current
  split
  · exact .pure _
  · exact configures_written (.inr rfl) _

theorem configures_ensureServer (backend : String) (wanted : Wire.Server) :
    c.Configures (c.ensureServer backend wanted) := by
  apply Configures.bind (.request poses_find?)
  intro found
  cases found with
  | none => exact configures_written (.inl rfl) _
  | some current =>
    simp only
    split
    · exact configures_written (.inr rfl) _
    · exact .pure _

theorem configures_ensureServers (backend : String) (report : ServerReport)
    (wanted : List Wire.Server) : c.Configures (c.ensureServers backend report wanted) := by
  induction wanted generalizing report with
  | nil => exact .pure _
  | cons w ws ih => exact (configures_ensureServer backend w).bind fun _ => ih _

theorem configures_deleteServers (backend : String) (report : ServerReport)
    (names : List String) : c.Configures (c.deleteServers backend report names) := by
  induction names generalizing report with
  | nil => exact .pure _
  | cons name names ih => exact .bind (.request poses_delete) fun _ => ih _

theorem configures_syncServers (backend : String) (wanted : List Wire.Server) :
    c.Configures (c.syncServers backend wanted) :=
  (configures_ensureServers backend .empty wanted).bind fun _ =>
    .bind (.request poses_list) fun _ => configures_deleteServers backend _ _

theorem configures_ensureBackend (wanted : Resolved) : c.Configures (c.ensureBackend wanted) :=
  (configures_ensureDefinition _).bind fun _ => (configures_ensureHttpChecks _ _).bind fun _ =>
    (configures_syncServers _ _).bind fun _ => .pure _

theorem configures_ensureFrontend (wanted : Wire.Frontend) :
    c.Configures (c.ensureFrontend wanted) := by
  apply Configures.bind (.request poses_find?)
  intro found
  cases found with
  | none => exact configures_written (.inl rfl) _
  | some current =>
    simp only
    split
    · exact .fail _
    · split
      · exact configures_written (.inr rfl) _
      · exact .pure _

theorem configures_ensureBind (frontend : String) (wanted : Wire.Bind) :
    c.Configures (c.ensureBind frontend wanted) := by
  apply Configures.bind (.request poses_list)
  intro binds
  split
  · exact .pure _
  · exact configures_written (.inl rfl) _

theorem configures_ensureRule (frontend : String) (wanted : Wire.SwitchingRule) :
    c.Configures (c.ensureRule frontend wanted) := by
  apply Configures.bind (.request poses_list)
  intro rules
  split
  · exact .pure _
  · exact configures_written (.inr rfl) _

end DataPlane.Client

/-- Every operation on the configuration is made of configuration requests. -/
theorem Configuring.configures (c : Client) (q : Configuring) : c.Configures (q.step c) := by
  cases q with
  | getBackend name => exact .request poses_find?
  | listBackends => exact .bind (.request poses_list) fun _ => .pure _
  | ensureDefinition wanted => exact configures_ensureDefinition wanted
  | deleteBackend name => exact configures_deleteBackend name
  | ensureBackend wanted => exact configures_ensureBackend wanted
  | getHttpChecks backend => exact configures_getHttpChecks backend
  | ensureHttpChecks backend wanted => exact configures_ensureHttpChecks backend wanted
  | getServer backend name => exact .request poses_find?
  | listServers backend => exact .request poses_list
  | ensureServer backend wanted => exact configures_ensureServer backend wanted
  | deleteServer backend name => exact .request poses_delete
  | syncServers backend wanted => exact configures_syncServers backend wanted
  | getFrontend name => exact .request poses_find?
  | ensureFrontend wanted => exact configures_ensureFrontend wanted
  | listBinds frontend => exact .request poses_list
  | ensureBind frontend wanted => exact configures_ensureBind frontend wanted
  | listRules frontend => exact .request poses_list
  | ensureRule frontend wanted => exact configures_ensureRule frontend wanted
  | deleteRule frontend index => exact .request poses_delete

/-! ## Histories -/

/-- An operation that was performed. -/
structure Performed where
  operation : Operation
  before : Session
  sent : List Sent
  result : Except ClientError operation.Value
  after : Session

/-- The session after some operations. -/
def Session.through (s : Session) : List Performed → Session
  | [] => s
  | p :: ps => p.after.through ps

namespace DataPlane.Client
open SessionM
variable {σ : Type} {c : Client} {s : Session} {ps : List Performed}

/-- Operations that were performed one after the other. -/
inductive History (c : Client) : Session → List Performed → Prop
  | nil {s : Session} : History c s []
  | cons {op : Operation} {s s' : Session} {sent : List Sent} {r : Except ClientError op.Value}
      {ps : List Performed} (h : Conduct (op.step c) s sent r s') (rest : History c s' ps) :
      History c s (⟨op, s, sent, r, s'⟩ :: ps)

/-- The history of operations in an environment. -/
def performed (c : Client) (env : Environment DataPlane.interface σ) :
    List Operation → Session → σ → List Performed
  | [], _, _ => []
  | op :: ops, s, w =>
    let x := (op.step c).start s
    ⟨op, s, Sent.ofTrace (x.trace env w), (x.run env w).1.1, (x.run env w).1.2⟩ ::
      performed c env ops (x.run env w).1.2 (x.run env w).2

theorem history_performed (c : Client) (env : Environment DataPlane.interface σ)
    (ops : List Operation) (s : Session) (w : σ) : History c s (performed c env ops s w) := by
  induction ops generalizing s w with
  | nil => exact .nil
  | cons op ops ih => exact .cons (conduct_run env _ s w) (ih _ _)

/-- Every operation of a history was performed in the session that it notes. -/
theorem History.conduct (h : History c s ps) {p : Performed} (hp : p ∈ ps) :
    Conduct (p.operation.step c) p.before p.sent p.result p.after := by
  induction h with
  | nil => cases hp
  | cons h rest ih =>
    rcases List.mem_cons.1 hp with rfl | hp
    · exact h
    · exact ih hp

/-- What stands among others is the first of them or comes later. -/
theorem first_or_later {α : Type} {front rest all : List α} {x y : α}
    (h : front ++ x :: rest = y :: all) :
    front = [] ∧ x = y ∧ rest = all ∨
      ∃ front', front = y :: front' ∧ front' ++ x :: rest = all := by
  obtain ⟨rfl, h⟩ | ⟨front', rfl, rfl⟩ := List.append_eq_cons_iff.1 h
  · obtain ⟨rfl, rfl⟩ := List.cons.inj h
    exact .inl ⟨rfl, rfl, rfl⟩
  · exact .inr ⟨front', rfl, rfl⟩

/-- The points of a history are histories themselves. -/
theorem History.of_append {front rest : List Performed} (h : History c s (front ++ rest)) :
    History c s front ∧ History c (s.through front) rest := by
  induction front generalizing s with
  | nil => exact ⟨.nil, h⟩
  | cons p front ih =>
    cases h with
    | cons hp hrest => exact ⟨.cons hp (ih hrest).1, (ih hrest).2⟩

theorem History.before_eq {p : Performed} (h : History c s (p :: ps)) : p.before = s := by
  cases h with
  | cons => rfl

/-- A sign that some operations set and others clear is seen exactly if one of them set it, or it
was there from the beginning, and none has cleared it since. -/
theorem History.latched (h : History c s ps) (Sign : Session → Prop)
    {sets clears : Performed → Prop}
    (hstep : ∀ p ∈ ps, Sign p.after ↔ sets p ∨ Sign p.before ∧ ¬ clears p) :
    Sign (s.through ps) ↔
      (∃ front p since, ps = front ++ p :: since ∧ sets p ∧ ∀ q ∈ since, ¬ clears q) ∨
        Sign s ∧ ∀ q ∈ ps, ¬ clears q := by
  induction h with
  | nil => simp [Session.through]
  | @cons op s s' sent r ps h rest ih =>
    rw [Session.through, ih fun p hp => hstep p (List.mem_cons_of_mem _ hp),
      hstep _ List.mem_cons_self]
    constructor
    · rintro (⟨front, p, since, rfl, hset, hsince⟩ | ⟨hset | ⟨hs, hno⟩, hsince⟩)
      · exact .inl ⟨_ :: front, p, since, rfl, hset, hsince⟩
      · exact .inl ⟨[], _, ps, rfl, hset, hsince⟩
      · exact .inr ⟨hs, List.forall_mem_cons.2 ⟨hno, hsince⟩⟩
    · rintro (⟨front, p, since, heq, hset, hsince⟩ | ⟨hs, hno⟩)
      · obtain ⟨_, rfl, rfl⟩ | ⟨front', _, hfront⟩ := first_or_later heq.symm
        · exact .inr ⟨.inl hset, hsince⟩
        · exact .inl ⟨front', p, since, hfront.symm, hset, hsince⟩
      · obtain ⟨hno, hsince⟩ := List.forall_mem_cons.1 hno
        exact .inr ⟨.inr ⟨hs, hno⟩, hsince⟩

end DataPlane.Client
end ProxySync
