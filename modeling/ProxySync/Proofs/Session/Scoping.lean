import ProxySync.Proofs.DataPlane.Address
import ProxySync.Proofs.Session.Operations
/-!
# What requests are scoped by

A configuration request carries the id of the open transaction, or the version that was read for it
just before. No operation keeps a scope from one request to the next, and none goes on without one.

## Main definitions

* `Client.Scoped`: lists of configuration requests, each with its own scope.
* `Performed.IsScoped`: what that means for the requests of an operation.

## Main statements

* `Client.Configures.scoped`: steps made of configuration requests send such lists.
* `Client.request_scoping`: so do all operations of every history.
-/
namespace ProxySync

namespace DataPlane.Client
open SessionM
variable {c : Client} {s s' : Session} {sent front rest : List Sent}
  {tx : Option Wire.Transaction} {e : Option ClientError}

/-- Configuration requests, each with a scope of its own, and the failure to read the version where
there is one. -/
inductive Scoped (c : Client) : Option Wire.Transaction → List Sent → Option ClientError → Prop
  | nil {tx : Option Wire.Transaction} : Scoped c tx [] none
  /-- Inside a transaction its id scopes the request. -/
  | inside {t : Wire.Transaction} {method : Method} {segments : List String} {body : Option Json}
      {reply : Reply} {sent : List Sent} {e : Option ClientError}
      (rest : Scoped c (some t) sent e) :
      Scoped c (some t)
        (⟨scopedRequest method segments body ("transaction_id", t.id), reply⟩ :: sent) e
  /-- Outside of one the version is read for the request. -/
  | outside {v : Int64} {method : Method} {segments : List String} {body : Option Json}
      {reply₀ reply : Reply} {sent : List Sent} {e : Option ClientError}
      (version : (c.received versionEndpoint reply₀).bind versionIn = .ok v)
      (rest : Scoped c none sent e) :
      Scoped c none
        (⟨versionRequest, reply₀⟩ ::
          ⟨scopedRequest method segments body ("version", toString v.toInt), reply⟩ :: sent) e
  /-- Without a version there is no request. -/
  | unread {reply₀ : Reply} {e : ClientError}
      (version : (c.received versionEndpoint reply₀).bind versionIn = .error e) :
      Scoped c none [⟨versionRequest, reply₀⟩] (some e)

theorem scopedRequest_ne_versionRequest {method : Method} {segments : List String}
    {body : Option Json} {q : String × String} :
    scopedRequest method segments body q ≠ versionRequest := fun h =>
  absurd (congrArg (·.endpoint.query) h) (List.cons_ne_nil _ _)

namespace Scoped

theorem append (h₁ : Scoped c tx front none) (h₂ : Scoped c tx rest e) :
    Scoped c tx (front ++ rest) e := by
  generalize hnone : (none : Option ClientError) = e₁ at h₁
  induction h₁ with
  | nil => exact h₂
  | inside _ ih => exact .inside (ih h₂ hnone)
  | outside version _ ih => exact .outside version (ih h₂ hnone)
  | unread => cases hnone

/-- Inside a transaction no version is read, and every request has its id. -/
theorem of_open {t : Wire.Transaction} (h : Scoped c (some t) sent e) :
    ∀ x ∈ sent, x.request ≠ versionRequest ∧
      x.request.endpoint.query = [("transaction_id", t.id)] := by
  generalize htx : some t = tx at h
  induction h with
  | nil => simp
  | inside rest ih =>
    cases htx
    exact List.forall_mem_cons.2 ⟨⟨scopedRequest_ne_versionRequest, rfl⟩, ih rfl⟩
  | outside => cases htx
  | unread => cases htx

/-- Outside of a transaction the version is read right before each request. -/
theorem of_closed {x : Sent} (h : Scoped c none (front ++ x :: rest) e)
    (hx : x.request ≠ versionRequest) :
    ∃ init reply v, front = init ++ [⟨versionRequest, reply⟩] ∧ reply.version? = some v ∧
      x.request.endpoint.query = [("version", toString v.toInt)] := by
  generalize htx : (none : Option Wire.Transaction) = tx at h
  generalize hsent : front ++ x :: rest = sent at h
  induction h generalizing front with
  | nil => simp at hsent
  | inside => cases htx
  | @outside v _ _ _ reply₀ _ _ _ version _ ih =>
    obtain ⟨_, rfl, _⟩ | ⟨front₁, rfl, hlater⟩ := first_or_later hsent
    · exact absurd rfl hx
    · obtain ⟨rfl, rfl, _⟩ | ⟨front₂, rfl, hlast⟩ := first_or_later hlater
      · exact ⟨[], reply₀, v, rfl, version?_of_versionIn version, rfl⟩
      · obtain ⟨init, reply, v', rfl, hv', hquery⟩ := ih htx hlast
        exact ⟨_ :: _ :: init, reply, v', rfl, hv', hquery⟩
  | unread =>
    obtain ⟨_, rfl, _⟩ | ⟨_, _, hlater⟩ := first_or_later hsent
    · exact absurd rfl hx
    · simp at hlater

/-- After a version that cannot be read nothing is sent. -/
theorem of_unread {reply : Reply} (h : Scoped c tx (front ++ ⟨versionRequest, reply⟩ :: rest) e)
    (hreply : reply.version? = none) :
    rest = [] ∧
      ∃ e', e = some e' ∧ (c.received versionEndpoint reply).bind versionIn = .error e' := by
  have hscoped {x : Sent} {method : Method} {segments : List String} {body : Option Json}
      {q : String × String} {reply₁ : Reply} (h : (⟨versionRequest, reply⟩ : Sent) = x)
      (hx : x = ⟨scopedRequest method segments body q, reply₁⟩) : False :=
    scopedRequest_ne_versionRequest (congrArg Sent.request (h.trans hx)).symm
  generalize hsent : front ++ ⟨versionRequest, reply⟩ :: rest = sent at h
  induction h generalizing front with
  | nil => simp at hsent
  | inside _ ih =>
    obtain ⟨_, hx, _⟩ | ⟨_, _, hlater⟩ := first_or_later hsent
    · exact (hscoped hx rfl).elim
    · exact ih hlater
  | outside version _ ih =>
    obtain ⟨_, hx, _⟩ | ⟨_, _, hlater⟩ := first_or_later hsent
    · obtain rfl : reply = _ := congrArg Sent.reply hx
      rw [version?_of_versionIn version] at hreply
      cases hreply
    · obtain ⟨_, hx, _⟩ | ⟨_, _, hlast⟩ := first_or_later hlater
      · exact (hscoped hx rfl).elim
      · exact ih hlast
  | unread version =>
    obtain ⟨_, hx, rfl⟩ | ⟨_, _, hlater⟩ := first_or_later hsent
    · obtain rfl : reply = _ := congrArg Sent.reply hx
      exact ⟨rfl, _, rfl, version⟩
    · simp at hlater

end Scoped

/-- What is sent by a step that is one configuration request. -/
theorem Poses.scoped {α : Type} {x : SessionM α} {method : Method} {segments : List String}
    {body : Option Json} {judge : Response → Except ClientError α} {r : Except ClientError α}
    (hx : Poses c x method segments body judge) (h : Conduct x s sent r s') :
    ∃ e, Scoped c s.transaction sent e ∧ ∀ e', e = some e' → r = .error e' := by
  cases ht : s.transaction with
  | some t =>
    obtain ⟨_, rfl, _⟩ := (hx.conduct_open ht).1 h
    exact ⟨none, .inside .nil, nofun⟩
  | none =>
    obtain ⟨e, rfl, hscope⟩ | ⟨_, q, _, rfl, hscope, _⟩ := (hx _ _ _ _).1 h
    · obtain ⟨reply, rfl, _, hr⟩ := (conduct_scope_closed ht).1 hscope
      cases hv : (c.received versionEndpoint reply).bind versionIn with
      | ok v => rw [hv] at hr; cases hr
      | error e' =>
        rw [hv] at hr
        cases hr
        exact ⟨some e, .unread hv, fun _ he => by rw [Option.some.inj he]⟩
    · obtain ⟨reply, rfl, _, hr⟩ := (conduct_scope_closed ht).1 hscope
      cases hv : (c.received versionEndpoint reply).bind versionIn with
      | ok v =>
        rw [hv] at hr
        cases hr
        exact ⟨none, .outside hv .nil, nofun⟩
      | error e => rw [hv] at hr; cases hr

/-- What is sent by a step made of configuration requests. -/
theorem Configures.scoped {α : Type} {x : SessionM α} {r : Except ClientError α}
    (hx : Configures c x) (h : Conduct x s sent r s') :
    ∃ e, Scoped c s.transaction sent e ∧ ∀ e', e = some e' → r = .error e' := by
  induction hx generalizing s sent s' with
  | pure a =>
    obtain ⟨rfl, _⟩ := conduct_pure.1 h
    exact ⟨none, .nil, nofun⟩
  | fail err =>
    obtain ⟨rfl, _⟩ := conduct_fail.1 h
    exact ⟨none, .nil, nofun⟩
  | request hx => exact hx.scoped h
  | bind hx hf ihx ihf =>
    obtain ⟨sent₁, sent₂, a, s₁, rfl, h₁, h₂⟩ | ⟨err, rfl, h₁⟩ := conduct_bind.1 h
    · obtain ⟨e₁, hscoped₁, hr₁⟩ := ihx h₁
      obtain ⟨e₂, hscoped₂, hr₂⟩ := ihf a h₂
      have hgoesOn : e₁ = none := Option.eq_none_iff_forall_ne_some.2 fun e' he => nomatch hr₁ e' he
      have hsame : s₁.transaction = s.transaction := by rw [hx.session h₁]; rfl
      subst hgoesOn
      rw [hsame] at hscoped₂
      exact ⟨e₂, hscoped₁.append hscoped₂, hr₂⟩
    · obtain ⟨e, hscoped, hr⟩ := ihx h₁
      exact ⟨e, hscoped, fun e' he => by rw [Except.error.inj (hr e' he)]⟩

end DataPlane.Client

open DataPlane (Client)
open DataPlane.Client (versionRequest)

/-- The requests of an operation for the configuration, but for the version itself. -/
def DataPlane.Request.IsScopable (q : DataPlane.Request) : Prop :=
  q.endpoint.area = .configuration ∧ q ≠ versionRequest

/-- The requests of an operation have the scope they need. -/
structure Performed.IsScoped (c : Client) (p : Performed) : Prop where
  /-- The transaction is the same at the time of all of them: it does not change on the way, nor is
  anything else asked for. -/
  steady : (∃ x ∈ p.sent, x.request.IsScopable) → p.after.transaction = p.before.transaction ∧
    ∀ x ∈ p.sent, x.request.endpoint.area = .configuration
  /-- Inside a transaction its id is the one parameter, and no version is read. -/
  inside : ∀ t, p.before.transaction = some t → ∀ x ∈ p.sent, x.request ≠ versionRequest ∧
    (x.request.IsScopable → x.request.endpoint.query = [("transaction_id", t.id)])
  /-- Outside of one the one parameter is the version told right before. -/
  outside : p.before.transaction = none → ∀ front x rest, p.sent = front ++ x :: rest →
    x.request.IsScopable → ∃ init reply v, front = init ++ [⟨versionRequest, reply⟩] ∧
      reply.version? = some v ∧ x.request.endpoint.query = [("version", toString v.toInt)]
  /-- Where no version is told nothing more is sent, and the operation fails as reading it does. -/
  unread : ∀ front reply rest, p.sent = front ++ ⟨versionRequest, reply⟩ :: rest →
    reply.version? = none → rest = [] ∧ ∃ e, p.result = .error e ∧
      SessionM.Conduct c.version p.before [⟨versionRequest, reply⟩] (.error e) p.before
  /-- The one parameter is all that the query holds on the wire. (A configured address that has a
  query already would take up the path of the request in it as well.) -/
  wire : c.base.query = none → ∀ x ∈ p.sent, ∀ parameter, x.request.endpoint.query = [parameter] →
    Form.decodeAll (c.wire x.request).query.toList = [parameter]

namespace DataPlane.Client
open SessionM
variable {σ : Type} {c : Client} {s s' : Session} {sent : List Sent}

theorem isScoped_configure {q : Configuring} {r : Except ClientError q.Value}
    (h : Conduct (q.step c) s sent r s') : Performed.IsScoped c ⟨.configure q, s, sent, r, s'⟩ := by
  obtain ⟨e, hscoped, hr⟩ := (q.configures c).scoped h
  constructor
  case steady =>
    intro _
    rw [(q.configures c).session h]
    exact ⟨rfl, (q.configures c).area _ _ _ _ h⟩
  case inside =>
    intro t ht x hx
    obtain ⟨hversion, hquery⟩ := Scoped.of_open (ht ▸ hscoped) x hx
    exact ⟨hversion, fun _ => hquery⟩
  case outside =>
    rintro ht front x rest rfl hx
    exact Scoped.of_closed (ht ▸ hscoped) hx.2
  case unread =>
    rintro front reply rest rfl hreply
    obtain ⟨rfl, e', he, hv⟩ := hscoped.of_unread hreply
    exact ⟨rfl, e', hr e' he, conduct_version.2 ⟨reply, rfl, hv.symm, rfl⟩⟩
  case wire => exact fun hbase x _ parameter => decodeAll_query_wire hbase

/-- Requests about transactions need no scope. -/
theorem isScoped_of_transactions {p : Performed}
    (h : ∀ x ∈ p.sent, x.request.endpoint.area = .transactions) : p.IsScoped c := by
  have hversion : ∀ x ∈ p.sent, x.request ≠ versionRequest := by
    intro x hx hv
    have harea := h x hx
    rw [hv] at harea
    cases harea
  have hnone : ∀ x ∈ p.sent, ¬ x.request.IsScopable := by
    intro x hx hscopable
    rw [DataPlane.Request.IsScopable, h x hx] at hscopable
    cases hscopable.1
  constructor
  case steady => exact fun ⟨x, hx, hscopable⟩ => absurd hscopable (hnone x hx)
  case inside => exact fun t _ x hx => ⟨hversion x hx, fun hs => absurd hs (hnone x hx)⟩
  case outside =>
    exact fun _ front x rest heq hs => absurd hs (hnone x (by simp [heq]))
  case unread =>
    exact fun front reply rest heq => absurd rfl (hversion ⟨versionRequest, reply⟩ (by simp [heq]))
  case wire => exact fun hbase x _ parameter => decodeAll_query_wire hbase

/-- Opening reads the version for itself, and asks for no transaction without one. -/
theorem isScoped_openTransaction {r : Except ClientError Wire.Transaction}
    (h : Conduct c.openTransaction s sent r s') :
    Performed.IsScoped c ⟨.openTransaction, s, sent, r, s'⟩ := by
  cases ht : s.transaction with
  | some t =>
    obtain ⟨rfl, _⟩ := (conduct_openTransaction_open ht).1 h
    exact isScoped_of_transactions (by simp)
  | none =>
    have hnone : ∀ x ∈ sent, ¬ x.request.IsScopable :=
      only_openTransaction (P := fun q => ¬ q.IsScopable) (fun h => h.2 rfl)
        (fun _ h => nomatch h.1) _ _ _ _ h
    constructor
    case steady => exact fun ⟨x, hx, hscopable⟩ => absurd hscopable (hnone x hx)
    case inside => exact fun t' ht' => nomatch ht.symm.trans ht'
    case outside =>
      rintro _ front x rest rfl hs
      exact absurd hs (hnone x (by simp))
    case unread =>
      rintro front reply rest rfl hreply
      obtain ⟨reply₀, ⟨e, hv, hsent, rfl, _⟩ | ⟨v, reply', hv, hsent, _⟩⟩ :=
        conduct_openTransaction ht h
      · obtain ⟨_, hx, rfl⟩ | ⟨_, _, hlater⟩ := first_or_later hsent
        · obtain rfl : reply = _ := congrArg Sent.reply hx
          exact ⟨rfl, e, rfl, conduct_version.2 ⟨reply, rfl, hv.symm, rfl⟩⟩
        · simp at hlater
      · obtain ⟨_, hx, _⟩ | ⟨_, _, hlater⟩ := first_or_later hsent
        · obtain rfl : reply = _ := congrArg Sent.reply hx
          rw [version?_of_versionIn hv] at hreply
          cases hreply
        · obtain ⟨_, hx, _⟩ | ⟨_, _, hlast⟩ := first_or_later hlater
          · cases congrArg (·.request.method) hx
          · simp at hlast
    case wire => exact fun hbase x _ parameter => decodeAll_query_wire hbase

/-- The requests of every operation have the scope they need. -/
theorem isScoped {p : Performed}
    (h : Conduct (p.operation.step c) p.before p.sent p.result p.after) : p.IsScoped c := by
  have htransactions {α : Type} {x : SessionM α} {p : Performed} {r : Except ClientError α}
      (hx : Only (fun q => q.endpoint.area = .transactions) x)
      (h : Conduct x p.before p.sent r p.after) : p.IsScoped c :=
    isScoped_of_transactions (hx _ _ _ _ h)
  have hcommit (t : Wire.Transaction) : (c.commitRequest t).endpoint.area = .transactions := rfl
  have hdiscard (t : Wire.Transaction) : (discardRequest t).endpoint.area = .transactions := rfl
  obtain ⟨op, s, sent, r, s'⟩ := p
  cases op with
  | openTransaction => exact isScoped_openTransaction h
  | commit => exact htransactions (only_commit hcommit) h
  | discard => exact htransactions (only_discard hdiscard) h
  | close => exact htransactions (only_close hcommit hdiscard) h
  | abort => exact htransactions (only_abort hdiscard) h
  | configure q => exact isScoped_configure h

/-- Whatever a session is asked for and whatever the Data Plane replies, the requests of all its
operations have the scope they need. -/
theorem request_scoping (c : Client) (env : Environment DataPlane.interface σ)
    (ops : List Operation) (w : σ) : ∀ p ∈ c.performed env ops .fresh w, p.IsScoped c :=
  fun _ hp => isScoped ((history_performed c env ops .fresh w).conduct hp)

/-- A Data Plane that accepts everything with one reply, which tells a version and a transaction. -/
def agreeable : Environment DataPlane.interface Unit
  | .request _, w => (.answered 200 (Json.obj [("_version", .int 1), ("id", .str "tx-1"),
      ("status", .str "in_progress")]).print, w)
  | .measure _, w => ((), w)

/-- The deletion of one server outside of a transaction and of another inside of one. -/
def deletions : List Performed :=
  (onThisHost 5555 "admin" "secret").performed agreeable
    [.configure (.deleteServer "web" "s1"), .openTransaction,
      .configure (.deleteServer "web" "s2")] .fresh ()

/-- A case of it, with a request to scope in either state. -/
theorem request_scoping_deletions :
    ∃ p₁ ∈ deletions, ∃ p₂ ∈ deletions,
      p₁.before.transaction = none ∧ (∃ x ∈ p₁.sent, x.request.IsScopable) ∧
      p₂.before.transaction.isSome = true ∧ (∃ x ∈ p₂.sent, x.request.IsScopable) ∧
      p₁.IsScoped (onThisHost 5555 "admin" "secret") ∧
      p₂.IsScoped (onThisHost 5555 "admin" "secret") := by
  have hscopable {p : Performed} (h : p.sent.any (fun x => x.request.method = .delete &&
      x.request.endpoint.area = .configuration) = true) : ∃ x ∈ p.sent, x.request.IsScopable := by
    obtain ⟨x, hx, hdelete⟩ := List.any_eq_true.1 h
    simp only [Bool.and_eq_true, decide_eq_true_eq] at hdelete
    exact ⟨x, hx, hdelete.2, fun hv => nomatch (congrArg (·.method) hv).symm.trans hdelete.1⟩
  have hclosed : deletions[0]?.any (fun p => p.before.transaction = none &&
      p.sent.any fun x => x.request.method = .delete &&
        x.request.endpoint.area = .configuration) = true := by
    decide +kernel
  have hopen : deletions[2]?.any (fun p => p.before.transaction.isSome &&
      p.sent.any fun x => x.request.method = .delete &&
        x.request.endpoint.area = .configuration) = true := by
    decide +kernel
  obtain ⟨p₁, hp₁, hclosed⟩ := (Option.any_eq_true _ _).1 hclosed
  obtain ⟨p₂, hp₂, hopen⟩ := (Option.any_eq_true _ _).1 hopen
  simp only [Bool.and_eq_true, decide_eq_true_eq] at hclosed hopen
  have hmem₁ := List.mem_of_getElem? hp₁
  have hmem₂ := List.mem_of_getElem? hp₂
  exact ⟨p₁, hmem₁, p₂, hmem₂, hclosed.1, hscopable (by simpa using hclosed.2), hopen.1,
    hscopable (by simpa using hopen.2), request_scoping _ _ _ _ p₁ hmem₁,
    request_scoping _ _ _ _ p₂ hmem₂⟩

end DataPlane.Client
end ProxySync
