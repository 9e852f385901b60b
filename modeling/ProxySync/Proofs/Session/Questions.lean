import ProxySync.Proofs.Session.Lifecycle
/-!
# What a step asks for

Some properties of a run only depend on which requests a step can make, in whatever order and
whatever the replies are. After its definition a backend is only asked for its parts: the check
list and the servers.

## Main definitions

* `Client.Only`: every request of a step is of a sort.
* `Sent.asked`: the requests but for those that only read the version.
* `Request.ConcernsParts`: a request about the parts of a backend.
* `Request.AsksChecks`, `Request.AsksServers`: the forms in which such requests are made.
* `Request.AsksDefinition`, `Request.AsksBackend`: those of the requests about a definition, and of
  all requests about a backend.

## Main statements

* `Client.Poses.asked`: a single request, with a transaction or without one.
* `Client.asks_ensureHttpChecks`, `Client.asks_syncServers`: the requests of these stages.
* `Client.asks_ensureBackend`: those of all stages.
-/
namespace ProxySync

/-- A request about the parts of a backend: its check list, its servers, or the version by which
such a request is scoped. Nothing but a server is created. -/
def DataPlane.Request.ConcernsParts (backend : String) (q : Request) : Prop :=
  q = Client.versionRequest ∨ q.endpoint.area = .configuration ∧ ∃ kind rest,
    q.endpoint.segments = "backends" :: backend :: kind :: rest ∧
    (q.method = .post → kind = "servers" ∧ rest = [])

/-- The requests about the check list of a backend, in the form in which they are made. -/
inductive DataPlane.Request.AsksChecks (backend : String) : Request → Prop
  | version : AsksChecks backend Client.versionRequest
  | checks {method : Method} {body : Option Json} {q : String × String}
      (method_ne : method ≠ .post) : AsksChecks backend
        (Client.scopedRequest method ["backends", backend, "http_checks"] body q)

/-- The requests about the servers of a backend, in the forms in which they are made. What is put in
place of a server is a server. -/
inductive DataPlane.Request.AsksServers (backend : String) : Request → Prop
  | version : AsksServers backend Client.versionRequest
  | servers {method : Method} {body : Option Json} {q : String × String}
      (method_eq : method = .get ∨ method = .post) :
      AsksServers backend (Client.scopedRequest method ["backends", backend, "servers"] body q)
  | server {method : Method} {name : String} {body : Option Json} {q : String × String}
      (method_ne : method ≠ .post)
      (written : method = .put → ∃ w : Wire.Server, body = some w.toJson) :
      AsksServers backend
        (Client.scopedRequest method ["backends", backend, "servers", name] body q)

/-- The requests about the definition of a backend. What is written is the wanted one. -/
inductive DataPlane.Request.AsksDefinition (wanted : Wire.Backend) : Request → Prop
  | version : AsksDefinition wanted Client.versionRequest
  | existing {method : Method} {body : Option Json} {q : String × String}
      (method_ne : method ≠ .post)
      (written : method = .put → body = some wanted.stamped.toJson) :
      AsksDefinition wanted (Client.scopedRequest method ["backends", wanted.name] body q)
  | create {q : String × String} :
      AsksDefinition wanted
        (Client.scopedRequest .post ["backends"] (some wanted.stamped.toJson) q)

/-- The requests about a backend and its parts. -/
inductive DataPlane.Request.AsksBackend (d : Resolved) (q : Request) : Prop
  | definition (h : q.AsksDefinition d.wireBackend)
  | checks (h : q.AsksChecks d.name)
  | servers (h : q.AsksServers d.name)

theorem DataPlane.Request.AsksChecks.concernsParts {backend : String} {q : Request}
    (h : q.AsksChecks backend) : q.ConcernsParts backend := by
  cases h with
  | version => exact .inl rfl
  | checks hm => exact .inr ⟨rfl, _, _, rfl, fun hpost => absurd hpost hm⟩

theorem DataPlane.Request.AsksServers.concernsParts {backend : String} {q : Request}
    (h : q.AsksServers backend) : q.ConcernsParts backend := by
  cases h with
  | version => exact .inl rfl
  | servers => exact .inr ⟨rfl, _, _, rfl, fun _ => ⟨rfl, rfl⟩⟩
  | server hm => exact .inr ⟨rfl, _, _, rfl, fun hpost => absurd hpost hm⟩

/-- The requests of a session without the readings of the version, which only scope the others. -/
def Sent.asked (sent : List Sent) : List Sent :=
  sent.filter fun x => x.request.endpoint ≠ DataPlane.Client.versionEndpoint

@[simp] theorem Sent.asked_append (sent₁ sent₂ : List Sent) :
    asked (sent₁ ++ sent₂) = asked sent₁ ++ asked sent₂ := List.filter_append ..

@[simp] theorem Sent.asked_nil : asked [] = [] := rfl

namespace DataPlane.Client
open SessionM
variable {α β : Type} {c : Client} {P : Request → Prop}

/-! ## Requests of a sort -/

/-- Every request of the step is of that sort, whatever the replies. -/
def Only (P : Request → Prop) (x : SessionM α) : Prop :=
  ∀ s sent r s', Conduct x s sent r s' → ∀ y ∈ sent, P y.request

theorem Only.mono {Q : Request → Prop} {x : SessionM α} (h : ∀ q, P q → Q q) (hx : Only P x) :
    Only Q x :=
  fun _ _ _ _ hc y hy => h _ (hx _ _ _ _ hc y hy)

theorem only_pure (a : α) : Only P (pure a) := by
  intro s sent r s' h
  obtain ⟨rfl, _⟩ := conduct_pure.1 h
  simp

theorem only_fail (e : ClientError) : Only P (SessionM.fail e : SessionM α) := by
  intro s sent r s' h
  obtain ⟨rfl, _⟩ := conduct_fail.1 h
  simp

theorem Only.bind {x : SessionM α} {f : α → SessionM β} (hx : Only P x) (hf : ∀ a, Only P (f a)) :
    Only P (x >>= f) := by
  intro s sent r s' h
  obtain ⟨_, _, a, _, rfl, h₁, h₂⟩ | ⟨_, _, h₁⟩ := conduct_bind.1 h
  · exact fun y hy => (List.mem_append.1 hy).elim (hx _ _ _ _ h₁ y) (hf a _ _ _ _ h₂ y)
  · exact hx _ _ _ _ h₁

/-- Scoping asks for nothing but the version. -/
theorem only_scope (hv : P versionRequest) : Only P c.scope := by
  intro s sent r s' h
  cases ht : s.transaction with
  | some t =>
    obtain ⟨rfl, _⟩ := (conduct_scope_open ht).1 h
    simp
  | none =>
    obtain ⟨_, rfl, _⟩ := (conduct_scope_closed ht).1 h
    simpa using hv

theorem Poses.only {x : SessionM α} {method : Method} {segments : List String}
    {body : Option Json} {judge : Response → Except ClientError α}
    (hx : Poses c x method segments body judge) (hv : P versionRequest)
    (hq : ∀ q, P (scopedRequest method segments body q)) : Only P x := by
  intro s sent r s' h
  obtain ⟨_, _, h₀⟩ | ⟨sent₀, q, reply, rfl, h₀, _⟩ := (hx _ _ _ _).1 h
  · exact only_scope hv _ _ _ _ h₀
  · intro y hy
    rcases List.mem_append.1 hy with hy | hy
    · exact only_scope hv _ _ _ _ h₀ y hy
    · obtain rfl := List.mem_singleton.1 hy
      exact hq q

/-! ## Requests but for the version -/

/-- With a transaction or without one, such a step asks once, unless it fails before that. In front
of the request the version is read at most. -/
theorem Poses.cases {x : SessionM α} {method : Method} {segments : List String}
    {body : Option Json} {judge : Response → Except ClientError α}
    (hx : Poses c x method segments body judge) {s s' : Session} {sent : List Sent}
    {r : Except ClientError α} (h : Conduct x s sent r s') :
    (∃ e, r = .error e ∧ ∀ y ∈ sent, y.request = versionRequest) ∨
    ∃ front q reply, sent = front ++ [⟨scopedRequest method segments body q, reply⟩] ∧
      (∀ y ∈ front, y.request = versionRequest) ∧
      r = (c.received (scopedRequest method segments body q).endpoint reply).bind judge := by
  have hversions : Only (· = versionRequest) c.scope := only_scope rfl
  obtain ⟨e, he, hscope⟩ | ⟨front, q, reply, hsent, hscope, hr, _⟩ := (hx _ _ _ _).1 h
  · exact .inl ⟨e, he, hversions _ _ _ _ hscope⟩
  · exact .inr ⟨front, q, reply, hsent, hversions _ _ _ _ hscope, hr⟩

theorem asked_eq_nil {sent : List Sent} (h : ∀ y ∈ sent, y.request = versionRequest) :
    Sent.asked sent = [] := by
  simp only [Sent.asked, List.filter_eq_nil_iff]
  intro y hy
  simp [h y hy, versionRequest]

@[simp] theorem asked_scopedRequest {method : Method} {segments : List String} {body : Option Json}
    {q : String × String} {reply : Reply} :
    Sent.asked [⟨scopedRequest method segments body q, reply⟩] =
      [⟨scopedRequest method segments body q, reply⟩] := by
  simp [Sent.asked, scopedRequest, versionEndpoint]

/-- So but for the version it asks once. -/
theorem Poses.asked {x : SessionM α} {method : Method} {segments : List String}
    {body : Option Json} {judge : Response → Except ClientError α}
    (hx : Poses c x method segments body judge) {s s' : Session} {sent : List Sent}
    {r : Except ClientError α} (h : Conduct x s sent r s') :
    (∃ e, r = .error e ∧ Sent.asked sent = []) ∨
    ∃ q reply, Sent.asked sent = [⟨scopedRequest method segments body q, reply⟩] ∧
      r = (c.received (scopedRequest method segments body q).endpoint reply).bind judge := by
  obtain ⟨e, he, hsent⟩ | ⟨front, q, reply, rfl, hfront, hr⟩ := hx.cases h
  · exact .inl ⟨e, he, asked_eq_nil hsent⟩
  · exact .inr ⟨q, reply, by simp [asked_eq_nil hfront], hr⟩

/-! ## Transactions -/

theorem only_openTransaction (hv : P versionRequest) (hopen : ∀ v, P (openRequest v)) :
    Only P c.openTransaction := by
  intro s sent r s' h
  cases ht : s.transaction with
  | some t =>
    rw [openTransaction, conduct_get_bind, ht] at h
    obtain ⟨rfl, _⟩ := conduct_fail.1 h
    simp
  | none =>
    obtain ⟨_, ⟨_, _, rfl, _⟩ | ⟨v, _, _, rfl, _⟩⟩ := conduct_openTransaction ht h
    · simpa using hv
    · simpa using ⟨hv, hopen v⟩

theorem only_commit (hcommit : ∀ t, P (c.commitRequest t)) : Only P c.commit := by
  intro s sent r s' h
  cases ht : s.transaction with
  | none =>
    rw [commit, conduct_get_bind, ht] at h
    obtain ⟨rfl, _⟩ := conduct_fail.1 h
    simp
  | some t =>
    obtain ⟨_, rfl, _⟩ := (conduct_commit ht).1 h
    simpa using hcommit t

theorem only_discard (hdiscard : ∀ t, P (discardRequest t)) : Only P c.discard := by
  intro s sent r s' h
  cases ht : s.transaction with
  | none =>
    rw [discard, conduct_get_bind, ht] at h
    obtain ⟨rfl, _⟩ := conduct_fail.1 h
    simp
  | some t =>
    obtain ⟨_, rfl, _⟩ := (conduct_discard ht).1 h
    simpa using hdiscard t

theorem only_close (hcommit : ∀ t, P (c.commitRequest t)) (hdiscard : ∀ t, P (discardRequest t)) :
    Only P c.close := by
  intro s sent r s' h
  rw [close, conduct_get_bind] at h
  split at h
  · exact only_fail _ _ _ _ _ h
  · split at h
    · exact (only_commit hcommit).bind (fun _ => only_pure _) _ _ _ _ h
    · exact (only_discard hdiscard).bind (fun _ => only_pure _) _ _ _ _ h

theorem only_abort (hdiscard : ∀ t, P (discardRequest t)) : Only P c.abort := by
  intro s sent r s' h
  obtain ⟨_, ⟨_, rfl⟩ | ⟨t, _, _, rfl⟩⟩ := conduct_abort h
  · simp
  · simpa using hdiscard t

/-- Giving up adds nothing but a discard. -/
theorem Only.orAbort {x : SessionM α} (hx : Only P x) (hdiscard : ∀ t, P (discardRequest t)) :
    Only P (c.orAbort x) := by
  intro s sent r s' h
  obtain ⟨_, _, hok⟩ | ⟨_, _, _, _, _, rfl, hfailed, habort⟩ := conduct_orAbort h
  · exact hx _ _ _ _ hok
  · intro y hy
    rcases List.mem_append.1 hy with hy | hy
    · exact hx _ _ _ _ hfailed y hy
    · exact only_abort hdiscard _ _ _ _ habort y hy

/-! ## The stages -/

theorem asks_ensureDefinition (wanted : Wire.Backend) :
    Only (·.AsksDefinition wanted) (c.ensureDefinition wanted) := by
  have hget : Only (·.AsksDefinition wanted) (c.getBackend wanted.stamped.name) :=
    poses_find?.only .version fun _ => .existing nofun nofun
  apply hget.bind
  intro found
  cases found with
  | none =>
    exact ((poses_write (.inl rfl)).only .version fun _ => .create).bind fun _ => only_pure _
  | some current =>
    simp only
    split
    · exact only_fail _
    · split
      · exact ((poses_write (.inr rfl)).only .version
          fun _ => .existing nofun fun _ => rfl).bind fun _ => only_pure _
      · exact only_pure _

section
variable {backend : String}

/-- The check list is only asked for in one place, where nothing is created. -/
theorem only_ensureHttpChecks_of (hv : P versionRequest)
    (hq : ∀ method body q, method ≠ .post →
      P (scopedRequest method ["backends", backend, "http_checks"] body q))
    (wanted : List Wire.HttpCheck) : Only P (c.ensureHttpChecks backend wanted) := by
  have hget : Only P (c.getHttpChecks backend) :=
    (poses_find?.only hv fun _ => hq _ _ _ nofun).bind fun _ => only_pure _
  apply hget.bind
  intro current
  split
  · exact only_pure _
  · exact ((poses_write (.inr rfl)).only hv fun _ => hq _ _ _ nofun).bind fun _ => only_pure _

/-- A server is looked at, and created or replaced. -/
theorem only_ensureServer_of {w : Wire.Server} (hv : P versionRequest)
    (hlook : ∀ q, P (scopedRequest .get ["backends", backend, "servers", w.name] none q))
    (hcreate : ∀ q, P (scopedRequest .post ["backends", backend, "servers"] (some w.toJson) q))
    (hreplace : ∀ q,
      P (scopedRequest .put ["backends", backend, "servers", w.name] (some w.toJson) q)) :
    Only P (c.ensureServer backend w) := by
  have hget : Only P (c.getServer backend w.name) := poses_find?.only hv hlook
  apply hget.bind
  intro found
  cases found with
  | none => exact ((poses_write (.inl rfl)).only hv hcreate).bind fun _ => only_pure _
  | some current =>
    simp only
    split
    · exact ((poses_write (.inr rfl)).only hv hreplace).bind fun _ => only_pure _
    · exact only_pure _

/-- What holds of the requests about each wanted server holds of those about all. -/
theorem only_ensureServers_of {ws : List Wire.Server}
    (h : ∀ w ∈ ws, Only P (c.ensureServer backend w)) (report : ServerReport) :
    Only P (c.ensureServers backend report ws) := by
  induction ws generalizing report with
  | nil => exact only_pure _
  | cons w ws ih =>
    obtain ⟨hw, hws⟩ := List.forall_mem_cons.1 h
    exact hw.bind fun change => ih hws _

theorem only_deleteServers_of (hv : P versionRequest)
    (h : ∀ n q, P (scopedRequest .delete ["backends", backend, "servers", n] none q))
    (report : ServerReport) (names : List String) :
    Only P (c.deleteServers backend report names) := by
  induction names generalizing report with
  | nil => exact only_pure _
  | cons name names ih => exact (poses_delete.only hv (h name)).bind fun change => ih _

end

theorem asks_ensureHttpChecks (backend : String) (wanted : List Wire.HttpCheck) :
    Only (·.AsksChecks backend) (c.ensureHttpChecks backend wanted) :=
  only_ensureHttpChecks_of .version (fun _ _ _ => .checks) wanted

theorem asks_ensureServers (backend : String) (report : ServerReport)
    (wanted : List Wire.Server) :
    Only (·.AsksServers backend) (c.ensureServers backend report wanted) :=
  only_ensureServers_of (fun w _ => only_ensureServer_of .version (fun _ => .server nofun nofun)
    (fun _ => .servers (.inr rfl)) fun _ => .server nofun fun _ => ⟨w, rfl⟩) report

theorem asks_deleteServers (backend : String) (report : ServerReport) (names : List String) :
    Only (·.AsksServers backend) (c.deleteServers backend report names) :=
  only_deleteServers_of .version (fun _ _ => .server nofun nofun) report names

theorem asks_listServers (backend : String) :
    Only (·.AsksServers backend) (c.listServers backend) :=
  poses_list.only .version fun _ => .servers (.inl rfl)

theorem asks_syncServers (backend : String) (wanted : List Wire.Server) :
    Only (·.AsksServers backend) (c.syncServers backend wanted) :=
  (asks_ensureServers backend .empty wanted).bind fun _ =>
    (asks_listServers backend).bind fun _ => asks_deleteServers backend _ _

theorem asks_ensureBackend (d : Resolved) : Only (·.AsksBackend d) (c.ensureBackend d) :=
  ((asks_ensureDefinition d.wireBackend).mono fun _ => .definition).bind fun _ =>
    ((asks_ensureHttpChecks d.name d.wireChecks).mono fun _ => .checks).bind fun _ =>
      ((asks_syncServers d.name d.wireServers).mono fun _ => .servers).bind fun _ => only_pure _

/-- A deletion creates nothing. -/
theorem only_deleteBackend (name : String) :
    Only (·.method ≠ .post) (c.deleteBackend name) := by
  have hget : Only (·.method ≠ .post) (c.getBackend name) := poses_find?.only nofun fun _ => nofun
  apply hget.bind
  intro found
  cases found with
  | none => exact only_pure _
  | some current =>
    simp only
    split
    · exact only_fail _
    · exact poses_delete.only nofun fun _ => nofun

theorem only_ensureHttpChecks (backend : String) (wanted : List Wire.HttpCheck) :
    Only (·.ConcernsParts backend) (c.ensureHttpChecks backend wanted) :=
  (asks_ensureHttpChecks backend wanted).mono fun _ => (·.concernsParts)

theorem only_syncServers (backend : String) (wanted : List Wire.Server) :
    Only (·.ConcernsParts backend) (c.syncServers backend wanted) :=
  (asks_syncServers backend wanted).mono fun _ => (·.concernsParts)

end DataPlane.Client
end ProxySync
