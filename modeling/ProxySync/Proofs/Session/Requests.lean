import ProxySync.Proofs.Session.Conduct
import ProxySync.Session.Transaction
/-!
# The requests of a session

Every operation of a session comes down to single requests and to what is made of their replies.
Inside a transaction a configuration request stands alone; outside of one the version is read first.

## Main definitions

* `Sent.changes`: an accepted write, which makes the session dirty.
* `Client.Poses`: a step that is one configuration request.
* `Client.foundIn`, `Client.listedIn`, `Client.writtenIn`, `Client.deletedIn`, `Client.grantedIn`,
  `Client.committedIn`, `Client.discardedIn`: what is made of the answer to each kind of request.

## Main statements

* `Client.poses_find?`, `Client.poses_list`, `Client.poses_write`, `Client.poses_delete`: the four
  kinds of configuration requests.
* `Client.conduct_openTransaction`, `Client.conduct_commit`, `Client.conduct_discard`: the requests
  about transactions.
-/
namespace ProxySync

namespace DataPlane.Client
open SessionM
variable {c : Client} {s s' : Session} {sent : List Sent}

/-- What a session makes of the reply to a request. -/
def received (c : Client) (e : Endpoint) : Reply → Except ClientError Response
  | .answered status body => .ok { status, body }
  | .lost cause => .error (.transport (c.shownAddress e) cause)

theorem conduct_send {m : Method} {e : Endpoint} {body : Option Json}
    {r : Except ClientError Response} :
    Conduct (c.send m e body) s sent r s' ↔
      ∃ reply, sent = [⟨⟨m, e, body⟩, reply⟩] ∧ r = c.received e reply ∧ s' = s := by
  rw [send, conduct_bind]
  constructor
  · rintro (⟨_, _, reply, _, rfl, h, h'⟩ | ⟨_, rfl, h⟩)
    · obtain ⟨_, rfl, ⟨⟩, rfl⟩ := conduct_request.1 h
      cases reply with
      | answered status body =>
        obtain ⟨rfl, rfl, rfl⟩ := conduct_pure.1 h'
        exact ⟨_, rfl, rfl, rfl⟩
      | lost cause =>
        obtain ⟨rfl, rfl, rfl⟩ := conduct_fail.1 h'
        exact ⟨_, rfl, rfl, rfl⟩
    · obtain ⟨_, _, ⟨⟩, _⟩ := conduct_request.1 h
  · rintro ⟨reply, rfl, rfl, rfl⟩
    refine .inl ⟨_, [], reply, s', rfl, conduct_request.2 ⟨reply, rfl, rfl, rfl⟩, ?_⟩
    cases reply with
    | answered status body => exact conduct_pure.2 ⟨rfl, rfl, rfl⟩
    | lost cause => exact conduct_fail.2 ⟨rfl, rfl, rfl⟩

/-- A request and what is made of its answer at once: the reply determines result and session. -/
theorem conduct_send_bind {m : Method} {e : Endpoint} {body : Option Json}
    {k : Response → SessionM α} {h : Response → Except ClientError α} {g : Reply → Session}
    {r : Except ClientError α}
    (hk : ∀ a {sent r s'}, Conduct (k a) s sent r s' ↔
      sent = [] ∧ r = h a ∧ s' = g (.answered a.status a.body))
    (hg : ∀ cause, g (.lost cause) = s) :
    Conduct (c.send m e body >>= k) s sent r s' ↔
      ∃ reply, sent = [⟨⟨m, e, body⟩, reply⟩] ∧ r = (c.received e reply).bind h ∧
        s' = g reply := by
  rw [conduct_bind]
  constructor
  · rintro (⟨_, _, a, _, rfl, hs, ha⟩ | ⟨err, rfl, hs⟩)
    · obtain ⟨reply, rfl, hr, rfl⟩ := conduct_send.1 hs
      obtain ⟨rfl, rfl, rfl⟩ := (hk a).1 ha
      cases reply with
      | answered status body => cases hr; exact ⟨_, rfl, rfl, rfl⟩
      | lost cause => cases hr
    · obtain ⟨reply, rfl, hr, rfl⟩ := conduct_send.1 hs
      cases reply with
      | answered status body => cases hr
      | lost cause => cases hr; exact ⟨_, rfl, rfl, (hg cause).symm⟩
  · rintro ⟨reply, rfl, rfl, rfl⟩
    cases reply with
    | answered status body =>
      exact .inl ⟨_, [], ⟨status, body⟩, s, rfl, conduct_send.2 ⟨_, rfl, rfl, rfl⟩,
        (hk _).2 ⟨rfl, rfl, rfl⟩⟩
    | lost cause => exact .inr ⟨_, rfl, conduct_send.2 ⟨_, rfl, rfl, hg cause⟩⟩

/-- The version that an answer tells. -/
def versionIn (a : Response) : Except ClientError Int64 :=
  if a.isSuccess then
    match version? a.body with
    | some v => .ok v
    | none => .error (.versionParse (Text.trim a.body))
  else .error (.apiResponse "get configuration version" a.status a.body)

/-- The request for the version. -/
def versionRequest : Request := { method := .get, endpoint := versionEndpoint, body := none }

theorem conduct_version {r : Except ClientError Int64} :
    Conduct c.version s sent r s' ↔
      ∃ reply, sent = [⟨versionRequest, reply⟩] ∧
        r = (c.received versionEndpoint reply).bind versionIn ∧ s' = s := by
  refine conduct_send_bind (g := fun _ => s) (fun a {_ _ _} => ?_) fun _ => rfl
  unfold versionIn
  cases ha : a.isSuccess with
  | true => cases version? a.body <;> simp
  | false => simp [refused]

/-- Inside a transaction its id scopes a request, and nothing has to be asked for that. -/
theorem conduct_scope_open {t : Wire.Transaction} (ht : s.transaction = some t)
    {r : Except ClientError (String × String)} :
    Conduct c.scope s sent r s' ↔ sent = [] ∧ r = .ok ("transaction_id", t.id) ∧ s' = s := by
  rw [scope, conduct_get_bind, ht]
  exact conduct_pure

/-- Outside of a transaction the version is read, which scopes the request that follows. -/
theorem conduct_scope_closed (ht : s.transaction = none)
    {r : Except ClientError (String × String)} :
    Conduct c.scope s sent r s' ↔
      ∃ reply, sent = [⟨versionRequest, reply⟩] ∧ s' = s ∧
        r = ((c.received versionEndpoint reply).bind versionIn).map
          fun v => ("version", toString v.toInt) := by
  rw [scope, conduct_get_bind, ht]
  simp only [conduct_bind, conduct_pure, conduct_version]
  constructor
  · rintro (⟨_, _, v, _, rfl, ⟨reply, rfl, hv, rfl⟩, rfl, rfl, rfl⟩ | ⟨e, rfl, reply, rfl, hv, rfl⟩)
    · exact ⟨reply, rfl, rfl, by rw [← hv]; rfl⟩
    · exact ⟨reply, rfl, rfl, by rw [← hv]; rfl⟩
  · rintro ⟨reply, rfl, rfl, rfl⟩
    cases hv : (c.received versionEndpoint reply).bind versionIn with
    | ok v => exact .inl ⟨_, [], v, s', rfl, ⟨reply, rfl, hv.symm, rfl⟩, rfl, rfl, rfl⟩
    | error e => exact .inr ⟨e, rfl, reply, rfl, hv.symm, rfl⟩

/-- Scoping leaves the session as it is. -/
theorem session_of_scope {r : Except ClientError (String × String)}
    (h : Conduct c.scope s sent r s') : s' = s := by
  cases ht : s.transaction with
  | some t => exact ((conduct_scope_open ht).1 h).2.2
  | none =>
    obtain ⟨_, _, hs, _⟩ := (conduct_scope_closed ht).1 h
    exact hs

end DataPlane.Client

/-- Whether a reply says that a write was accepted. A deletion is if it is answered with 200, 202
or 204. -/
def DataPlane.Reply.accepts (m : DataPlane.Method) : DataPlane.Reply → Bool
  | .lost _ => false
  | .answered status _ =>
    match m with
    | .get => false
    | .delete => status = 200 || status = 202 || status = 204
    | _ => DataPlane.isSuccess status

/-- Whether a request was an accepted write. -/
def Sent.changes (x : Sent) : Bool := x.reply.accepts x.request.method

/-- A look is no write. -/
theorem Sent.changes_of_get {x : Sent} (h : x.request.method = .get) : x.changes = false := by
  rw [changes, h]
  cases x.reply <;> rfl

/-- The session that has just opened its transaction. -/
abbrev Session.begun (t : Wire.Transaction) : Session :=
  { transaction := some t, dirty := false }

/-- The session after a request that may have changed something. -/
def Session.marked (s : Session) (changed : Bool) : Session :=
  { s with dirty := s.dirty || changed }

@[simp] theorem Session.marked_false (s : Session) : s.marked false = s := by
  simp [marked]

@[simp] theorem Session.marked_true (s : Session) : s.marked true = { s with dirty := true } := by
  simp [marked]

theorem Session.marked_marked (s : Session) (changed changed' : Bool) :
    (s.marked changed).marked changed' = s.marked (changed || changed') := by
  simp [marked, Bool.or_assoc]

/-- The session after a transaction has been granted, or not. -/
def Session.opened (s : Session) : Except ClientError Wire.Transaction → Session
  | .ok t => { transaction := some t, dirty := false }
  | .error _ => s

/-- The session after the reply to a commit. A refused commit leaves the transaction to be
discarded, unless it is gone. -/
def Session.settled (s : Session) : DataPlane.Reply → Session
  | .lost _ => s
  | .answered status _ =>
    if status = 404 then { s with transaction := none }
    else if DataPlane.isSuccess status then .fresh
    else s

namespace DataPlane.Client
open SessionM
variable {α β : Type} {c : Client} {s s' : Session} {sent : List Sent}

/-- A configuration request with its scope. -/
def scopedRequest (method : Method) (segments : List String) (body : Option Json)
    (parameter : String × String) : Request :=
  { method, endpoint := { area := .configuration, segments, query := [parameter] }, body }

/-- The step makes one configuration request, scoped like all of them, and makes its result of the
answer. The session is dirty afterwards if the request was an accepted write. -/
def Poses (c : Client) (x : SessionM α) (method : Method) (segments : List String)
    (body : Option Json) (judge : Response → Except ClientError α) : Prop :=
  ∀ s sent r s', Conduct x s sent r s' ↔
    (∃ e, r = .error e ∧ Conduct c.scope s sent (.error e) s') ∨
    ∃ sent₀ q reply, sent = sent₀ ++ [⟨scopedRequest method segments body q, reply⟩] ∧
      Conduct c.scope s sent₀ (.ok q) s ∧
      r = (c.received (scopedRequest method segments body q).endpoint reply).bind judge ∧
      s' = s.marked (Sent.changes ⟨scopedRequest method segments body q, reply⟩)

/-- Inside a transaction such a step is one exchange. -/
theorem Poses.conduct_open {x : SessionM α} {method : Method} {segments : List String}
    {body : Option Json} {judge : Response → Except ClientError α} {r : Except ClientError α}
    (hx : Poses c x method segments body judge) {t : Wire.Transaction}
    (ht : s.transaction = some t) :
    Conduct x s sent r s' ↔
      ∃ reply, sent = [⟨scopedRequest method segments body ("transaction_id", t.id), reply⟩] ∧
        r = (c.received (scopedRequest method segments body ("transaction_id", t.id)).endpoint
          reply).bind judge ∧
        s' = s.marked
          (Sent.changes ⟨scopedRequest method segments body ("transaction_id", t.id), reply⟩) := by
  rw [hx]
  constructor
  · rintro (⟨e, _, h⟩ | ⟨_, q, reply, rfl, h, hr, hs⟩)
    · cases ((conduct_scope_open ht).1 h).2.1
    · obtain ⟨rfl, hq, _⟩ := (conduct_scope_open ht).1 h
      cases hq
      exact ⟨reply, rfl, hr, hs⟩
  · rintro ⟨reply, rfl, hr, hs⟩
    exact .inr ⟨[], _, reply, rfl, (conduct_scope_open ht).2 ⟨rfl, rfl, rfl⟩, hr, hs⟩

/-- What is made of an answer at once is such a step. -/
theorem poses_configure_bind {method : Method} {segments : List String} {body : Option Json}
    {k : Response → SessionM α} {judge : Response → Except ClientError α}
    (hk : ∀ a {s sent r s'}, Conduct (k a) s sent r s' ↔ sent = [] ∧ r = judge a ∧
      s' = s.marked (Reply.accepts method (.answered a.status a.body))) :
    Poses c (c.configure method segments body >>= k) method segments body judge := by
  intro s sent r s'
  have hsend (q : String × String) (sent : List Sent) :
      Conduct (c.send method (scopedRequest method segments body q).endpoint body >>= k) s sent r
          s' ↔
        ∃ reply, sent = [⟨scopedRequest method segments body q, reply⟩] ∧
          r = (c.received (scopedRequest method segments body q).endpoint reply).bind judge ∧
          s' = s.marked (reply.accepts method) :=
    conduct_send_bind (g := fun reply => s.marked (reply.accepts method))
      (fun a {_ _ _} => hk a) fun _ => s.marked_false
  rw [configure, LawfulMonad.bind_assoc, conduct_bind]
  constructor
  · rintro (⟨sent₀, _, q, _, rfl, h₀, h⟩ | h)
    · obtain rfl := session_of_scope h₀
      obtain ⟨reply, rfl, hr, hs⟩ := (hsend q _).1 h
      exact .inr ⟨sent₀, q, reply, rfl, h₀, hr, hs⟩
    · exact .inl h
  · rintro (h | ⟨sent₀, q, reply, rfl, h₀, hr, hs⟩)
    · exact .inr h
    · exact .inl ⟨sent₀, _, q, s, rfl, h₀, (hsend q _).2 ⟨reply, rfl, hr, hs⟩⟩

/-- What reading an accepted body makes of it. -/
def readIn (c : Client) (what : String) (read : Json → Option α) (a : Response) :
    Except ClientError α :=
  match (Json.parse? a.body).bind read with
  | some x => .ok x
  | none => .error (.decode what (c.jsonDetail what a.body))

@[simp] theorem conduct_decode {what : String} {read : Json → Option α} {a : Response}
    {r : Except ClientError α} :
    Conduct (c.decode what read a) s sent r s' ↔
      sent = [] ∧ r = c.readIn what read a ∧ s' = s := by
  rw [decode, readIn]
  cases (Json.parse? a.body).bind read <;> simp

/-- What a reply to the request for one object tells; 404 means that there is none. -/
def foundIn (c : Client) (operation what : String) (read : Json → Option α) (a : Response) :
    Except ClientError (Option α) :=
  if a.status = 404 then .ok none
  else if a.isSuccess then (c.readIn what read a).map some
  else .error (.apiResponse operation a.status a.body)

/-- What an answer to the request for a list tells. -/
def listedIn (c : Client) (operation what : String) (read : Json → Option α) (a : Response) :
    Except ClientError (List α) :=
  if a.isSuccess then c.readIn what (Json.list? read) a
  else .error (.apiResponse operation a.status a.body)

/-- Whether an answer accepts a write. -/
def writtenIn (operation : String) (a : Response) : Except ClientError Unit :=
  if a.isSuccess then .ok () else .error (.apiResponse operation a.status a.body)

/-- What an answer to a deletion tells. -/
def deletedIn (operation : String) (a : Response) : Except ClientError Change :=
  if a.status = 404 then .ok .unchanged
  else if a.status = 200 ∨ a.status = 202 ∨ a.status = 204 then .ok .deleted
  else if a.isSuccess then .ok .unchanged
  else .error (.apiResponse operation a.status a.body)

theorem poses_find? {segments : List String} {operation what : String}
    {read : Json → Option α} :
    Poses c (c.find? segments operation what read) .get segments none
      (c.foundIn operation what read) := by
  refine poses_configure_bind fun a {s _ _ _} => ?_
  rw [show Reply.accepts .get (.answered a.status a.body) = false from rfl, s.marked_false, foundIn]
  split
  · exact conduct_pure
  · cases ha : a.isSuccess with
    | true =>
      simp only [if_true, conduct_bind_pure, conduct_decode]
      constructor
      · rintro ⟨_, rfl, rfl, rfl, rfl⟩
        exact ⟨rfl, rfl, rfl⟩
      · rintro ⟨rfl, rfl, rfl⟩
        exact ⟨_, rfl, rfl, rfl, rfl⟩
    | false => simp [refused]

theorem poses_list {segments : List String} {operation what : String} {read : Json → Option α} :
    Poses c (c.list segments operation what read) .get segments none
      (c.listedIn operation what read) := by
  refine poses_configure_bind fun a {s _ _ _} => ?_
  rw [show Reply.accepts .get (.answered a.status a.body) = false from rfl, s.marked_false,
    listedIn]
  cases ha : a.isSuccess with
  | true => simp
  | false => simp [refused]

theorem poses_write {method : Method} {segments : List String} {body : Json}
    {operation resource change : String} (hm : method = .post ∨ method = .put) :
    Poses c (c.write method segments body operation resource change) method segments (some body)
      (writtenIn operation) := by
  refine poses_configure_bind fun a {s _ _ _} => ?_
  have hacc : Reply.accepts method (.answered a.status a.body) = a.isSuccess := by
    rcases hm with rfl | rfl <;> rfl
  rw [hacc, writtenIn]
  cases ha : a.isSuccess with
  | true => simp
  | false => simp [refused]

theorem poses_delete {segments : List String} {operation resource : String} :
    Poses c (c.delete segments operation resource) .delete segments none
      (deletedIn operation) := by
  refine poses_configure_bind fun a {s _ _ _} => ?_
  have hacc : Reply.accepts .delete (.answered a.status a.body) =
      decide (a.status = 200 ∨ a.status = 202 ∨ a.status = 204) := by
    simp [Reply.accepts, Bool.or_assoc]
  rw [hacc, deletedIn]
  by_cases h404 : a.status = 404
  · simp [h404]
  · by_cases hd : a.status = 200 ∨ a.status = 202 ∨ a.status = 204
    · rw [if_neg h404, if_neg h404, if_pos hd, if_pos hd, decide_eq_true hd, s.marked_true,
        conduct_markDirty_bind, conduct_pure]
    · cases ha : a.isSuccess with
      | true => simp [h404, hd]
      | false => simp [h404, hd, refused]

/-! ## Transactions -/

/-- The request for a transaction on a version. -/
def openRequest (v : Int64) : Request :=
  { method := .post
    endpoint := { area := .transactions, segments := [], query := [("version", toString v.toInt)] }
    body := none }

/-- The request to commit a transaction. -/
def commitRequest (c : Client) (t : Wire.Transaction) : Request :=
  { method := .put
    endpoint :=
      { area := .transactions, segments := [t.id]
        query := [("force_reload", if c.forceReload then "true" else "false")] }
    body := none }

/-- The request to forget a transaction. -/
def discardRequest (t : Wire.Transaction) : Request :=
  { method := .delete, endpoint := { area := .transactions, segments := [t.id], query := [] }
    body := none }

/-- The transaction that an answer grants. -/
def grantedIn (c : Client) (a : Response) : Except ClientError Wire.Transaction :=
  if a.status = 409 then .error .transactionConflict
  else if a.isSuccess then c.readIn "transaction" Wire.Transaction.ofJson? a
  else .error (.apiResponse "open transaction" a.status a.body)

/-- What an answer to a commit tells. -/
def committedIn (t : Wire.Transaction) (a : Response) : Except ClientError Wire.Transaction :=
  if a.status = 400 then .error (.commitRejected t.id 400 "bad request")
  else if a.status = 404 then .error (.commitRejected t.id 404 "transaction not found")
  else if a.status = 406 then .error (.commitRejected t.id 406 "configuration cannot be handled")
  else if a.isSuccess then .ok (committed t a.body)
  else .error (.apiResponse "commit transaction" a.status a.body)

/-- What an answer to a discard tells. -/
def discardedIn (t : Wire.Transaction) (a : Response) : Except ClientError Unit :=
  if a.status = 404 then .error (.transactionNotFound t.id)
  else if a.isSuccess then .ok ()
  else .error (.apiResponse "discard transaction" a.status a.body)

/-- A grant that can be read opens the transaction in the session. -/
theorem conduct_granting {a : Response} {r : Except ClientError Wire.Transaction} :
    Conduct (if a.status = 409 then SessionM.fail .transactionConflict
      else if a.isSuccess then do
        let t ← c.decode "transaction" Wire.Transaction.ofJson? a
        set { transaction := some t, dirty := false : Session }
        return t
      else refused "open transaction" a) s sent r s' ↔
      sent = [] ∧ r = c.grantedIn a ∧ s' = s.opened (c.grantedIn a) := by
  rw [grantedIn]
  split
  · exact conduct_fail
  · cases a.isSuccess with
    | true =>
      rw [if_pos rfl, if_pos rfl]
      have hread {sent : List Sent} {r : Except ClientError Wire.Transaction} {s' : Session} :
          Conduct (c.decode "transaction" Wire.Transaction.ofJson? a) s sent r s' ↔
            sent = [] ∧ r = c.readIn "transaction" Wire.Transaction.ofJson? a ∧ s' = s :=
        conduct_decode
      cases hr : c.readIn "transaction" Wire.Transaction.ofJson? a with
      | ok t =>
        rw [hr] at hread
        rw [conduct_bind_of_quiet hread, conduct_set_bind, conduct_pure]
        rfl
      | error e =>
        rw [hr] at hread
        rw [conduct_bind_of_failed hread]
        rfl
    | false => exact conduct_fail

/-- Opening reads the version and asks for a transaction on it. -/
theorem conduct_openTransaction {r : Except ClientError Wire.Transaction}
    (hs : s.transaction = none) (h : Conduct c.openTransaction s sent r s') :
    ∃ reply₀,
      (∃ e, (c.received versionEndpoint reply₀).bind versionIn = .error e ∧
        sent = [⟨versionRequest, reply₀⟩] ∧ r = .error e ∧ s' = s) ∨
      ∃ v reply, (c.received versionEndpoint reply₀).bind versionIn = .ok v ∧
        sent = [⟨versionRequest, reply₀⟩, ⟨openRequest v, reply⟩] ∧
        r = (c.received (openRequest v).endpoint reply).bind c.grantedIn ∧ s' = s.opened r := by
  rw [openTransaction, conduct_get_bind, hs, conduct_bind] at h
  obtain ⟨_, _, v, _, rfl, h₁, h₂⟩ | ⟨e, rfl, h₁⟩ := h
  · obtain ⟨reply₀, rfl, hv, rfl⟩ := conduct_version.1 h₁
    obtain ⟨reply, rfl, hr, hs'⟩ := (conduct_send_bind (h := c.grantedIn)
      (g := fun reply =>
        Session.opened _ ((c.received (openRequest v).endpoint reply).bind c.grantedIn))
      (fun a {_ _ _} => conduct_granting) fun _ => rfl).1 h₂
    exact ⟨reply₀, .inr ⟨v, reply, hv.symm, rfl, hr, by rw [hr]; exact hs'⟩⟩
  · obtain ⟨reply₀, rfl, hv, rfl⟩ := conduct_version.1 h₁
    exact ⟨reply₀, .inl ⟨e, hv.symm, rfl, rfl, rfl⟩⟩

/-- A commit asks once. -/
theorem conduct_commit {t : Wire.Transaction} (ht : s.transaction = some t)
    {r : Except ClientError Wire.Transaction} :
    Conduct c.commit s sent r s' ↔ ∃ reply, sent = [⟨c.commitRequest t, reply⟩] ∧
      r = (c.received (c.commitRequest t).endpoint reply).bind (committedIn t) ∧
      s' = s.settled reply := by
  rw [commit, conduct_get_bind, ht]
  refine conduct_send_bind (fun a {_ _ _} => ?_) fun _ => rfl
  rw [committedIn, Session.settled]
  by_cases h400 : a.status = 400
  · simp [h400, isSuccess]
  · by_cases h404 : a.status = 404
    · simp [h404]
    · by_cases h406 : a.status = 406
      · simp [h406, isSuccess]
      · cases ha : isSuccess a.status with
        | true =>
          simp only [h400, h404, h406, if_false, Response.isSuccess, ha, if_true]
          rw [conduct_set_bind, conduct_measure_bind, conduct_pure]
        | false => simp [h400, h404, h406, Response.isSuccess, ha, refused]

/-- A discard asks once, and the session forgets the transaction whatever the reply. -/
theorem conduct_discard {t : Wire.Transaction} (ht : s.transaction = some t)
    {r : Except ClientError Unit} :
    Conduct c.discard s sent r s' ↔ ∃ reply, sent = [⟨discardRequest t, reply⟩] ∧
      r = (c.received (discardRequest t).endpoint reply).bind (discardedIn t) ∧
      s' = .fresh := by
  rw [discard, conduct_get_bind, ht]
  simp only
  rw [conduct_set_bind]
  refine conduct_send_bind (fun a {_ _ _} => ?_) fun _ => rfl
  rw [discardedIn]
  by_cases h404 : a.status = 404
  · simp [h404]
  · cases ha : a.isSuccess with
    | true => simp [h404]
    | false => simp [h404, refused]

end DataPlane.Client
end ProxySync
