import ProxySync.Proofs.Session.Verdict
/-!
# Failing by the last answer

A step of a pass stops at the first answer with which it cannot go on, and what it returns is the
failure that is made of that answer. This holds of single requests and of what is composed of them.
Behind it a pass only discards its transaction, which changes nothing of its failure.

## Main definitions

* `Charge`: all answers but the last are acceptable, and the last one settles the failure.
* `Client.FailsLast`: a step fails just by its last answer; `Client.Charges`: it does so inside a
  transaction.
* `Charged`: what comes of a whole pass is settled by the first answer that is not acceptable.

## Main statements

* `Client.failsLast_syncServers`: the synchronization of servers is such a step.
* `Client.charges_ensureBackend`, `Client.charges_deleteBackend`: what a pass does between opening
  and closing its transaction is such a step.
* `Client.charged_of_conduct`: with such steps between, opening and closing make such a pass.
-/
namespace ProxySync

/-- The failure that a step returns. -/
def SessionM.failure? {α : Type} : Except ClientError α → Option ClientError
  | .ok _ => none
  | .error e => some e

namespace DataPlane.Client
open SessionM
variable {α β : Type} {c : Client} {t : Wire.Transaction} {s s' : Session} {sent : List Sent}

/-! ## The verdicts are those of the program -/

section
variable {q : Request} {p : Purpose} {what : String} {read : Json → Option α} {reply : Reply}

theorem failure?_readIn {status : Nat} {body : String} :
    failure? (c.readIn what read ⟨status, body⟩) =
      if ((Json.parse? body).bind read).isSome then none
      else some (.decode what (c.jsonDetail what body)) := by
  rw [readIn]
  cases (Json.parse? body).bind read <;> rfl

theorem failure?_map {f : α → β} {r : Except ClientError α} : failure? (r.map f) = failure? r := by
  cases r <;> rfl

/-- The verdict on a look for one object. -/
theorem verdict_found (hp : q.purpose = p) (habsence : p.allowsAbsence = true)
    (hobjection : ∀ body, p.objection? c body =
      if ((Json.parse? body).bind read).isSome then none
      else some (.decode what (c.jsonDetail what body))) :
    c.verdict ⟨q, reply⟩ =
      failure? ((c.received q.endpoint reply).bind (c.foundIn p.operation what read)) := by
  cases reply with
  | lost cause => rfl
  | answered status body =>
    simp only [verdict, hp, Purpose.verdict, Purpose.refusal?_of_allowsAbsence habsence, habsence,
      received, Except.bind, foundIn, Response.isSuccess, Bool.true_and, beq_iff_eq, hobjection]
    by_cases h404 : status = 404
    · subst h404
      rfl
    · by_cases hs : isSuccess status = true
      · simp only [h404, hs, if_true, if_false, failure?_map, failure?_readIn]
      · simp [h404, hs, failure?]

/-- The verdict on a look through a list. -/
theorem verdict_listed (hp : q.purpose = p) (habsence : p.allowsAbsence = false)
    (hrefusal : ∀ status, p.refusal? status = none)
    (hobjection : ∀ body, p.objection? c body =
      if ((Json.parse? body).bind (Json.list? read)).isSome then none
      else some (.decode what (c.jsonDetail what body))) :
    c.verdict ⟨q, reply⟩ =
      failure? ((c.received q.endpoint reply).bind (c.listedIn p.operation what read)) := by
  cases reply with
  | lost cause => rfl
  | answered status body =>
    simp only [verdict, hp, Purpose.verdict, hrefusal, habsence, received, Except.bind, listedIn,
      Response.isSuccess, Bool.false_and, hobjection]
    by_cases hs : isSuccess status = true
    · simp only [hs, if_true, failure?_readIn]
    · simp [hs, failure?]

/-- The verdict on a write. -/
theorem verdict_written (hp : q.purpose = p) (habsence : p.allowsAbsence = false)
    (hrefusal : ∀ status, p.refusal? status = none)
    (hobjection : ∀ body, p.objection? c body = none) :
    c.verdict ⟨q, reply⟩ =
      failure? ((c.received q.endpoint reply).bind (writtenIn p.operation)) := by
  cases reply with
  | lost cause => rfl
  | answered status body =>
    simp only [verdict, hp, Purpose.verdict, hrefusal, habsence, received, Except.bind, writtenIn,
      Response.isSuccess, Bool.false_and, hobjection]
    by_cases hs : isSuccess status = true <;> simp [hs, failure?]

/-- The verdict on a deletion. -/
theorem verdict_deleted (hp : q.purpose = p) (habsence : p.allowsAbsence = true)
    (hobjection : ∀ body, p.objection? c body = none) :
    c.verdict ⟨q, reply⟩ =
      failure? ((c.received q.endpoint reply).bind (deletedIn p.operation)) := by
  cases reply with
  | lost cause => rfl
  | answered status body =>
    simp only [verdict, hp, Purpose.verdict, Purpose.refusal?_of_allowsAbsence habsence, habsence,
      received, Except.bind, deletedIn, Response.isSuccess, Bool.true_and, beq_iff_eq, hobjection]
    by_cases h404 : status = 404
    · subst h404
      rfl
    · by_cases hd : status = 200 ∨ status = 202 ∨ status = 204
      · have hs : isSuccess status = true := by rcases hd with rfl | rfl | rfl <;> rfl
        simp [h404, hd, hs, failure?]
      · by_cases hs : isSuccess status = true <;> simp [h404, hd, hs, failure?]

end

theorem verdict_version {reply : Reply} : c.verdict ⟨versionRequest, reply⟩ =
    failure? ((c.received versionEndpoint reply).bind versionIn) := by
  cases reply with
  | lost cause => rfl
  | answered status body =>
    simp only [verdict, received, Except.bind, versionIn, Response.isSuccess]
    change Purpose.verdict .version c status body = _
    rw [Purpose.verdict]
    by_cases hs : isSuccess status = true
    · simp only [Purpose.refusal?, hs, if_true, Purpose.objection?]
      cases version? body <;> rfl
    · simp only [Purpose.refusal?, hs]
      rfl

theorem verdict_open {reply : Reply} (v : Int64) : c.verdict ⟨openRequest v, reply⟩ =
    failure? ((c.received (openRequest v).endpoint reply).bind c.grantedIn) := by
  cases reply with
  | lost cause => rfl
  | answered status body =>
    simp only [verdict, received, Except.bind, grantedIn, Response.isSuccess]
    change Purpose.verdict .opening c status body = _
    simp only [Purpose.verdict, Purpose.refusal?]
    by_cases h409 : status = 409
    · subst h409
      rfl
    · by_cases hs : isSuccess status = true
      · simp only [h409, if_false, hs, if_true, failure?_readIn, Option.isSome_bind]
        rfl
      · simp [h409, hs, failure?, Purpose.allowsAbsence, Purpose.operation]

theorem verdict_commit {reply : Reply} : c.verdict ⟨c.commitRequest t, reply⟩ =
    failure? ((c.received (c.commitRequest t).endpoint reply).bind (committedIn t)) := by
  cases reply with
  | lost cause => rfl
  | answered status body =>
    simp only [verdict, received, Except.bind, committedIn, Response.isSuccess]
    change Purpose.verdict (.commit t.id) c status body = _
    simp only [Purpose.verdict]
    by_cases hr : status = 400 ∨ status = 404 ∨ status = 406
    · rcases hr with rfl | rfl | rfl <;> rfl
    · simp only [not_or] at hr
      have hnone : (Purpose.commit t.id).refusal? status = none := by
        simp [Purpose.refusal?, Purpose.rejections, hr.1, hr.2.1, hr.2.2, eq_comm]
      simp only [hnone, hr.1, hr.2.1, hr.2.2, if_false]
      by_cases hs : isSuccess status = true
      · simp only [hs, if_true]
        rfl
      · simp only [hs]
        rfl

theorem verdict_discard {reply : Reply} : c.verdict ⟨discardRequest t, reply⟩ =
    failure? ((c.received (discardRequest t).endpoint reply).bind (discardedIn t)) := by
  cases reply with
  | lost cause => rfl
  | answered status body =>
    simp only [verdict, received, Except.bind, discardedIn, Response.isSuccess]
    change Purpose.verdict (.discard t.id) c status body = _
    simp only [Purpose.verdict, Purpose.refusal?]
    by_cases h404 : status = 404
    · subst h404
      rfl
    · by_cases hs : isSuccess status = true
      · simp only [h404, if_false, hs, if_true]
        rfl
      · simp only [h404, hs, if_false]
        rfl

/-- The verdict on a look at a backend, as long as the look itself fails. -/
theorem verdict_look {name : String} {parameter : String × String} {reply : Reply} {e : ClientError}
    (h : (c.received (scopedRequest .get ["backends", name] none parameter).endpoint reply).bind
      (c.foundIn "get backend" "backend" Wire.Backend.ofJson?) = .error e) :
    c.verdict ⟨scopedRequest .get ["backends", name] none parameter, reply⟩ = some e := by
  cases reply with
  | lost cause =>
    cases h
    rfl
  | answered status body =>
    simp only [received, Except.bind, foundIn, Response.isSuccess] at h
    simp only [verdict]
    change Purpose.verdict (.getBackend name) c status body = _
    simp only [Purpose.verdict, Purpose.refusal?, Purpose.allowsAbsence, Bool.true_and, beq_iff_eq]
    by_cases h404 : status = 404
    · simp [h404] at h
    · by_cases hs : isSuccess status = true
      · simp only [h404, if_false, hs, if_true, readIn] at h
        simp only [hs, if_true, Purpose.objection?]
        cases hb : (Json.parse? body).bind Wire.Backend.ofJson? with
        | none =>
          rw [hb] at h
          cases h
          rfl
        | some b =>
          rw [hb] at h
          cases h
      · simp only [h404, if_false, hs] at h
        simp only [h404, if_false, hs]
        cases h
        rfl

end DataPlane.Client

/-! ## Failing by the last answer -/

open DataPlane.Client in
/-- All answers are acceptable, or all but the last, whose failure is returned. -/
inductive Charge {α : Type} (c : DataPlane.Client) : List Sent → Except ClientError α → Prop
  | passed {sent : List Sent} {a : α} (h : ∀ x ∈ sent, c.verdict x = none) :
    Charge c sent (.ok a)
  | failed {front : List Sent} {last : Sent} {e : ClientError}
      (h : ∀ x ∈ front, c.verdict x = none) (hlast : c.verdict last = some e) :
    Charge c (front ++ [last]) (.error e)

namespace Charge
open SessionM
variable {α β : Type} {c : DataPlane.Client} {sent₁ sent₂ sent : List Sent}
  {r : Except ClientError α}

theorem nil (a : α) : Charge c [] (.ok a) := .passed (by simp)

theorem single {x : Sent} (h : c.verdict x = failure? r) : Charge c [x] r := by
  cases r with
  | ok a => exact .passed (by simpa [failure?] using h)
  | error e => exact (.failed (by simp) h : Charge c ([] ++ [x]) (.error e))

theorem append (h₁ : ∀ x ∈ sent₁, c.verdict x = none) (h₂ : Charge c sent₂ r) :
    Charge c (sent₁ ++ sent₂) r := by
  cases h₂ with
  | passed h => exact .passed fun x hx => (List.mem_append.1 hx).elim (h₁ x) (h x)
  | failed h hlast =>
    rw [← List.append_assoc]
    exact .failed (fun x hx => (List.mem_append.1 hx).elim (h₁ x) (h x)) hlast

theorem verdict_eq_none {a : α} (h : Charge c sent (.ok a)) : ∀ x ∈ sent, c.verdict x = none := by
  cases h with
  | passed h => exact h

theorem map {f : α → β} (h : Charge c sent r) : Charge c sent (r.map f) := by
  cases h with
  | passed h => exact .passed h
  | failed h hlast => exact .failed h hlast

theorem of_error {e : ClientError} (h : Charge c sent (.error e : Except ClientError α)) :
    Charge c sent (.error e : Except ClientError β) := by
  cases h with
  | failed h hlast => exact .failed h hlast

end Charge

namespace DataPlane.Client
open SessionM
variable {α β : Type} {c : Client} {t : Wire.Transaction} {s s' : Session} {sent : List Sent}

/-- Inside the transaction the step fails just by its last answer, and the transaction stays. -/
def Charges (c : Client) (t : Wire.Transaction) (x : SessionM α) : Prop :=
  ∀ s sent r s', s.transaction = some t → Conduct x s sent r s' →
    Charge c sent r ∧ s'.transaction = some t

/-- In every session the step fails just by its last answer, and leaves the transaction alone. -/
def FailsLast (c : Client) (x : SessionM α) : Prop :=
  ∀ s sent r s', Conduct x s sent r s' → Charge c sent r ∧ s'.transaction = s.transaction

theorem FailsLast.charges {x : SessionM α} (hx : FailsLast c x) : Charges c t x := by
  intro s sent r s' ht h
  obtain ⟨hcharge, hs⟩ := hx _ _ _ _ h
  exact ⟨hcharge, hs.trans ht⟩

theorem failsLast_pure (a : α) : FailsLast c (pure a) := by
  intro s sent r s' h
  obtain ⟨rfl, rfl, rfl⟩ := conduct_pure.1 h
  exact ⟨.nil a, rfl⟩

theorem FailsLast.bind {x : SessionM α} {f : α → SessionM β} (hx : FailsLast c x)
    (hf : ∀ a, FailsLast c (f a)) : FailsLast c (x >>= f) := by
  intro s sent r s' h
  obtain ⟨_, _, a, s₁, rfl, h₁, h₂⟩ | ⟨e, rfl, h₁⟩ := conduct_bind.1 h
  · obtain ⟨hfirst, hs₁⟩ := hx _ _ _ _ h₁
    obtain ⟨hrest, hs'⟩ := hf a _ _ _ _ h₂
    exact ⟨hrest.append hfirst.verdict_eq_none, hs'.trans hs₁⟩
  · obtain ⟨hfirst, hs'⟩ := hx _ _ _ _ h₁
    exact ⟨hfirst.of_error, hs'⟩

/-- Scoping a request fails just by the reading of the version. -/
theorem charge_scope {r : Except ClientError (String × String)} (h : Conduct c.scope s sent r s') :
    Charge c sent r := by
  cases ht : s.transaction with
  | some t =>
    obtain ⟨rfl, rfl, _⟩ := (conduct_scope_open ht).1 h
    exact .nil _
  | none =>
    obtain ⟨reply, rfl, _, rfl⟩ := (conduct_scope_closed ht).1 h
    exact .single (by rw [verdict_version, failure?_map])

/-- A configuration request is such a step. -/
theorem Poses.failsLast {x : SessionM α} {method : Method} {segments : List String}
    {body : Option Json} {judge : Response → Except ClientError α}
    (hx : Poses c x method segments body judge)
    (hv : ∀ q reply, c.verdict ⟨scopedRequest method segments body q, reply⟩ =
      failure? ((c.received (scopedRequest method segments body q).endpoint reply).bind judge)) :
    FailsLast c x := by
  intro s sent r s' h
  obtain ⟨e, rfl, hscope⟩ | ⟨_, q, reply, rfl, hscope, rfl, rfl⟩ := (hx _ _ _ _).1 h
  · have hs := session_of_scope hscope
    exact ⟨(charge_scope hscope).of_error, by rw [hs]⟩
  · exact ⟨(Charge.single (hv q reply)).append (charge_scope hscope).verdict_eq_none, rfl⟩

theorem charges_pure (a : α) : Charges c t (pure a) := (failsLast_pure a).charges

theorem Charges.bind {x : SessionM α} {f : α → SessionM β} (hx : Charges c t x)
    (hf : ∀ a, Charges c t (f a)) : Charges c t (x >>= f) := by
  intro s sent r s' ht h
  obtain ⟨_, _, a, s₁, rfl, h₁, h₂⟩ | ⟨e, rfl, h₁⟩ := conduct_bind.1 h
  · obtain ⟨hfirst, ht₁⟩ := hx _ _ _ _ ht h₁
    obtain ⟨hrest, ht'⟩ := hf a _ _ _ _ ht₁ h₂
    exact ⟨hrest.append hfirst.verdict_eq_none, ht'⟩
  · obtain ⟨hfirst, ht'⟩ := hx _ _ _ _ ht h₁
    exact ⟨hfirst.of_error, ht'⟩

/-- Looking at a backend and going on only if it is absent or belongs to this program. -/
theorem charges_look {name : String} {absent : SessionM α} {present : Wire.Backend → SessionM α}
    (h₀ : Charges c t absent) (h₁ : ∀ b, Charges c t (present b)) :
    Charges c t (c.getBackend name >>= fun found => match found with
      | none => absent
      | some b => if !b.isManaged then SessionM.fail (.notManaged "backend" name)
        else present b) := by
  intro s sent r s' ht h
  obtain ⟨sent₁, sent₂, found, s₁, rfl, hget, h⟩ | ⟨e, rfl, hget⟩ := conduct_bind.1 h
  · obtain ⟨reply, rfl, hr, rfl⟩ := (poses_find?.conduct_open ht).1 hget
    generalize hx : (⟨scopedRequest .get ["backends", name] none ("transaction_id", t.id), reply⟩ :
      Sent) = x
    have hpurpose : x.request.purpose = .getBackend name := by rw [← hx]; rfl
    have hreply : x.reply = reply := by rw [← hx]
    rcases of_found hr with ⟨rfl, habs⟩ | ⟨hfound, hsome⟩
    · have hok : ∀ y ∈ [x], c.verdict y = none := by
        simp [verdict_eq_none_iff, Sent.isAcceptable, hpurpose, hreply, habs]
      obtain ⟨hrest, ht'⟩ := h₀ _ _ _ _ (by exact ht) h
      exact ⟨hrest.append hok, ht'⟩
    · obtain ⟨b, rfl⟩ := Option.isSome_iff_exists.1 hsome
      cases hb : b.isManaged with
      | true =>
        have hok : ∀ y ∈ [x], c.verdict y = none := by
          simp [verdict_eq_none_iff, Sent.isAcceptable, hpurpose, hreply, ← hfound, hb]
        simp only [hb, Bool.not_true, Bool.false_eq_true, if_false] at h
        obtain ⟨hrest, ht'⟩ := h₁ b _ _ _ _ (by exact ht) h
        exact ⟨hrest.append hok, ht'⟩
      | false =>
        simp only [hb, Bool.not_false, if_true] at h
        obtain ⟨rfl, rfl, rfl⟩ := conduct_fail.1 h
        have hforeign : x.FindsForeign (.backend name) :=
          findsForeign_iff.2 ⟨hpurpose, b, by rw [hreply, ← hfound], hb⟩
        exact ⟨.single (verdict_eq_some.2 (.foreign hforeign)), ht⟩
  · obtain ⟨reply, rfl, hr, rfl⟩ := (poses_find?.conduct_open ht).1 hget
    exact ⟨.single (verdict_look hr.symm), ht⟩

/-- An accepted write gives the value that was waiting for it. -/
theorem failsLast_write {method : Method} {segments : List String} {body : Json} {p : Purpose}
    {resource change : String} (hm : method = .post ∨ method = .put)
    (hp : ∀ q, (scopedRequest method segments (some body) q).purpose = p)
    (habsence : p.allowsAbsence = false) (hrefusal : ∀ status, p.refusal? status = none)
    (hobjection : ∀ body, p.objection? c body = none) (a : α) :
    FailsLast c (c.write method segments body p.operation resource change >>= fun _ => pure a) :=
  ((poses_write hm).failsLast fun q _ => verdict_written (hp q) habsence hrefusal hobjection).bind
    fun _ => failsLast_pure a

theorem charges_ensureDefinition (wanted : Wire.Backend) :
    Charges c t (c.ensureDefinition wanted) := by
  apply charges_look
    (failsLast_write (p := .createBackend) (.inl rfl) (fun _ => rfl) rfl (fun _ => rfl)
      (fun _ => rfl) _).charges
  intro current
  split
  · exact (failsLast_write (p := .updateBackend) (.inr rfl) (fun _ => rfl) rfl (fun _ => rfl)
      (fun _ => rfl) _).charges
  · exact charges_pure _

theorem charges_deleteBackend (name : String) : Charges c t (c.deleteBackend name) :=
  charges_look (charges_pure _) fun _ =>
    (poses_delete.failsLast fun _ _ =>
      verdict_deleted (p := .deleteBackend) rfl rfl fun _ => rfl).charges

theorem failsLast_ensureHttpChecks (backend : String) (wanted : List Wire.HttpCheck) :
    FailsLast c (c.ensureHttpChecks backend wanted) := by
  have hget : FailsLast c (c.getHttpChecks backend) :=
    (poses_find?.failsLast fun _ _ => verdict_found (p := .getChecks) rfl rfl fun _ => by
      rw [Option.isSome_bind]
      rfl).bind fun _ => failsLast_pure _
  apply hget.bind
  intro current
  split
  · exact failsLast_pure _
  · exact failsLast_write (p := .replaceChecks) (.inr rfl) (fun _ => rfl) rfl (fun _ => rfl)
      (fun _ => rfl) _

theorem failsLast_ensureServer (backend : String) (wanted : Wire.Server) :
    FailsLast c (c.ensureServer backend wanted) := by
  have hget : FailsLast c (c.getServer backend wanted.name) :=
    poses_find?.failsLast fun _ _ => verdict_found (p := .getServer) rfl rfl fun _ => by
      rw [Option.isSome_bind]
      rfl
  apply hget.bind
  intro found
  cases found with
  | none =>
    exact failsLast_write (p := .createServer) (.inl rfl) (fun _ => rfl) rfl (fun _ => rfl)
      (fun _ => rfl) _
  | some current =>
    simp only
    split
    · exact failsLast_write (p := .updateServer) (.inr rfl) (fun _ => rfl) rfl (fun _ => rfl)
        (fun _ => rfl) _
    · exact failsLast_pure _

theorem failsLast_ensureServers (backend : String) (report : ServerReport)
    (wanted : List Wire.Server) : FailsLast c (c.ensureServers backend report wanted) := by
  induction wanted generalizing report with
  | nil => exact failsLast_pure _
  | cons w ws ih => exact (failsLast_ensureServer backend w).bind fun change => ih _

theorem failsLast_deleteServers (backend : String) (report : ServerReport) (names : List String) :
    FailsLast c (c.deleteServers backend report names) := by
  induction names generalizing report with
  | nil => exact failsLast_pure _
  | cons name names ih =>
    have hdelete : FailsLast c (c.deleteServer backend name) :=
      poses_delete.failsLast fun _ _ => verdict_deleted (p := .deleteServer) rfl rfl fun _ => rfl
    exact hdelete.bind fun change => ih _

theorem failsLast_syncServers (backend : String) (wanted : List Wire.Server) :
    FailsLast c (c.syncServers backend wanted) := by
  have hlist : FailsLast c (c.listServers backend) :=
    poses_list.failsLast fun _ _ => verdict_listed (p := .listServers) rfl rfl (fun _ => rfl)
      fun _ => by
        rw [Option.isSome_bind]
        rfl
  exact (failsLast_ensureServers backend .empty wanted).bind fun _ =>
    hlist.bind fun _ => failsLast_deleteServers backend _ _

theorem charges_ensureBackend (d : Resolved) : Charges c t (c.ensureBackend d) :=
  (charges_ensureDefinition _).bind fun _ =>
    (failsLast_ensureHttpChecks _ _).charges.bind fun _ =>
      (failsLast_syncServers _ _).charges.bind fun _ => charges_pure _

/-- Opening a transaction fails just by its last answer. -/
theorem charge_open {r : Except ClientError Wire.Transaction} (hs : s.transaction = none)
    (h : Conduct c.openTransaction s sent r s') :
    Charge c sent r ∧ ∀ t, r = .ok t → s'.transaction = some t := by
  obtain ⟨reply₀, ⟨e, he, rfl, rfl, rfl⟩ | ⟨v, reply, hv, rfl, hr, rfl⟩⟩ :=
    conduct_openTransaction hs h
  · exact ⟨.single (by rw [verdict_version, he]; rfl), nofun⟩
  · have hversion : ∀ x ∈ [(⟨versionRequest, reply₀⟩ : Sent)], c.verdict x = none := by
      simp [verdict_version, hv, failure?]
    refine ⟨Charge.append hversion (.single (by rw [verdict_open, ← hr])), ?_⟩
    rintro t rfl
    rfl

/-- Closing a transaction fails just by its last answer. -/
theorem charge_close {r : Except ClientError Closing} (ht : s.transaction = some t)
    (h : Conduct c.close s sent r s') : Charge c sent r := by
  cases hd : s.dirty with
  | true =>
    obtain ⟨reply, rfl, rfl, -⟩ := conduct_close_dirty ht hd h
    exact (Charge.single verdict_commit).map
  | false =>
    obtain ⟨reply, rfl, rfl, -⟩ := conduct_close_clean ht hd h
    exact (Charge.single verdict_discard).map

end DataPlane.Client

/-! ## The failure of a pass -/

open DataPlane.Client in
/-- All answers are acceptable, or all up to the first that is not, whose failure is returned. After
that a transaction is discarded at most. -/
inductive Charged {α : Type} (c : DataPlane.Client) : List Sent → Except ClientError α → Prop
  | passed {sent : List Sent} {a : α} (h : ∀ x ∈ sent, c.verdict x = none) :
    Charged c sent (.ok a)
  | failed {front after : List Sent} {x : Sent} {e : ClientError}
      (h : ∀ y ∈ front, c.verdict y = none) (hx : c.verdict x = some e)
      (hafter : after = [] ∨ ∃ t reply, after = [⟨discardRequest t, reply⟩]) :
    Charged c (front ++ x :: after) (.error e)

namespace DataPlane.Client
open SessionM
variable {α β : Type} {c : Client} {t : Wire.Transaction} {s s' : Session} {sent : List Sent}

theorem charged_of_charge {r : Except ClientError α} (h : Charge c sent r) : Charged c sent r := by
  cases h with
  | passed h => exact .passed h
  | failed h hlast => exact .failed h hlast (.inl rfl)

/-- Giving up does not change the failure. -/
theorem charged_of_orAbort {x : SessionM α} {r : Except ClientError α}
    (hx : ∀ sent r s', Conduct x s sent r s' → Charge c sent r)
    (h : Conduct (c.orAbort x) s sent r s') : Charged c sent r := by
  obtain ⟨a, rfl, hok⟩ | ⟨e, sent₁, after, s₁, rfl, rfl, hfailed, habort⟩ := conduct_orAbort h
  · exact charged_of_charge (hx _ _ _ hok)
  · have hafter : after = [] ∨ ∃ t reply, after = [⟨discardRequest t, reply⟩] := by
      obtain ⟨-, ⟨-, rfl⟩ | ⟨t, reply, -, rfl⟩⟩ := conduct_abort habort
      · exact .inl rfl
      · exact .inr ⟨t, reply, rfl⟩
    cases hx _ _ _ hfailed with
    | failed hfront hlast =>
      rw [List.append_assoc]
      exact .failed hfront hlast hafter

/-- Steps between opening and closing a transaction make a pass. -/
theorem charged_of_conduct {body : SessionM β} {f : β → α} {r : Except ClientError α}
    (hbody : ∀ t, Charges c t body)
    (h : Conduct (c.openTransaction >>= fun _ =>
      c.orAbort (body >>= fun b => c.close >>= fun _ => pure (f b))) .fresh sent r s') :
    Charged c sent r := by
  obtain ⟨sent₁, sent₂, t, s₁, rfl, hopen, hrest⟩ | ⟨e, rfl, hopen⟩ := conduct_bind.1 h
  · obtain ⟨hopened, ht⟩ := charge_open rfl hopen
    have hinner {sent r s'} (h : Conduct (body >>= fun b => c.close >>= fun _ => pure (f b)) s₁ sent
        r s') : Charge c sent r := by
      obtain ⟨_, _, b, s₂, rfl, hb, hclose⟩ | ⟨e, rfl, hb⟩ := conduct_bind.1 h
      · obtain ⟨hcharge, ht₂⟩ := hbody t _ _ _ _ (ht t rfl) hb
        obtain ⟨r₀, rfl, hclosed⟩ := conduct_bind_pure.1 hclose
        exact (charge_close ht₂ hclosed).map.append hcharge.verdict_eq_none
      · exact (hbody t _ _ _ _ (ht t rfl) hb).1.of_error
    cases charged_of_orAbort (fun _ _ _ => hinner) hrest with
    | passed hpassed =>
      exact .passed fun x hx =>
        (List.mem_append.1 hx).elim (hopened.verdict_eq_none x) (hpassed x)
    | failed hfront hx hafter =>
      rw [← List.append_assoc]
      exact .failed (fun y hy =>
        (List.mem_append.1 hy).elim (hopened.verdict_eq_none y) (hfront y)) hx hafter
  · exact charged_of_charge (charge_open rfl hopen).1.of_error

end DataPlane.Client

namespace Charged
open SessionM DataPlane DataPlane.Client
variable {α : Type} {c : Client} {sent : List Sent} {r : Except ClientError α} {e : ClientError}
  {x : Sent}

/-- The failure of a pass is that of the first answer that is not acceptable. -/
theorem failure?_eq (h : Charged c sent r) : failure? r = sent.findSome? c.verdict := by
  cases h with
  | passed h => exact (List.findSome?_eq_none_iff.2 h).symm
  | failed h hx =>
    rw [List.findSome?_append, List.findSome?_eq_none_iff.2 h, List.findSome?_cons, hx]
    rfl

/-- An answer that is not acceptable is what a pass fails by, unless it is the answer to a
discard. -/
theorem of_fails (h : Charged c sent r) (hmem : x ∈ sent) (hx : x.Fails c e)
    (hnot : ∀ id, x.request.purpose ≠ .discard id) : r = .error e := by
  have hv := verdict_eq_some.2 hx
  cases h with
  | passed h =>
    rw [h x hmem] at hv
    cases hv
  | failed h hlast hafter =>
    rcases List.mem_append.1 hmem with hmem | hmem
    · rw [h x hmem] at hv
      cases hv
    · rcases List.mem_cons.1 hmem with rfl | hmem
      · rw [hlast] at hv
        cases hv
        rfl
      · obtain rfl | ⟨t, reply, rfl⟩ := hafter
        · cases hmem
        · obtain rfl := List.mem_singleton.1 hmem
          exact absurd rfl (hnot t.id)

end Charged

end ProxySync
