import ProxySync.Proofs.Session.Ownership
/-!
# What is wrong with an answer

Whether an answer will do depends on what was asked: the same status means that something is absent,
that somebody else was faster, or that the Data Plane refuses. So does the failure that is made of
it. It depends on nothing else, neither on the session nor on other answers.

## Main definitions

* `DataPlane.Purpose`: what a request of a pass is for.
* `Sent.isAcceptable`: the answer is one with which a pass goes on.
* `Client.verdict`: the failure that is made of an answer.

## Main statements

* `Client.verdict_eq_none_iff`: just the acceptable answers are no failures.
* `Client.verdict_eq_some`: which answer is made which failure.
-/
namespace ProxySync

namespace DataPlane

/-- What a request of a pass is for. -/
inductive Purpose where
  | version
  | opening
  | commit (id : String)
  | discard (id : String)
  | getBackend (name : String)
  | createBackend
  | updateBackend
  | deleteBackend
  | getChecks
  | replaceChecks
  | listServers
  | getServer
  | createServer
  | updateServer
  | deleteServer
  | other

/-- What a request is for, by its method and its place. -/
def Request.purpose (q : Request) : Purpose :=
  match q.endpoint.area, q.method, q.endpoint.segments with
  | .transactions, .post, [] => .opening
  | .transactions, .put, [id] => .commit id
  | .transactions, .delete, [id] => .discard id
  | .configuration, .get, ["version"] => .version
  | .configuration, .get, ["backends", name] => .getBackend name
  | .configuration, .post, ["backends"] => .createBackend
  | .configuration, .put, ["backends", _] => .updateBackend
  | .configuration, .delete, ["backends", _] => .deleteBackend
  | .configuration, .get, ["backends", _, "http_checks"] => .getChecks
  | .configuration, .put, ["backends", _, "http_checks"] => .replaceChecks
  | .configuration, .get, ["backends", _, "servers"] => .listServers
  | .configuration, .post, ["backends", _, "servers"] => .createServer
  | .configuration, .get, ["backends", _, "servers", _] => .getServer
  | .configuration, .put, ["backends", _, "servers", _] => .updateServer
  | .configuration, .delete, ["backends", _, "servers", _] => .deleteServer
  | _, _, _ => .other

namespace Purpose

/-- What failures call the operation. -/
def operation : Purpose → String
  | .version => "get configuration version"
  | .opening => "open transaction"
  | .commit _ => "commit transaction"
  | .discard _ => "discard transaction"
  | .getBackend _ => "get backend"
  | .createBackend => "create backend"
  | .updateBackend => "update backend"
  | .deleteBackend => "delete backend"
  | .getChecks => "get http checks"
  | .replaceChecks => "replace http checks"
  | .listServers => "list servers"
  | .getServer => "get server"
  | .createServer => "create server"
  | .updateServer => "update server"
  | .deleteServer => "delete server"
  | .other => ""

/-- What failures call the object in an accepted body, and whether a body can be read as one. -/
def reading? : Purpose → Option (String × (Json → Bool))
  | .opening => some ("transaction", fun j => (Wire.Transaction.ofJson? j).isSome)
  | .getBackend _ => some ("backend", fun j => (Wire.Backend.ofJson? j).isSome)
  | .getChecks =>
    some ("http check list", fun j => (Json.list? Wire.HttpCheck.ofJson? j).isSome)
  | .listServers => some ("server list", fun j => (Json.list? Wire.Server.ofJson? j).isSome)
  | .getServer => some ("server", fun j => (Wire.Server.ofJson? j).isSome)
  | _ => none

/-- Whether 404 only says that there is nothing. -/
def allowsAbsence : Purpose → Bool
  | .getBackend _ | .getChecks | .getServer | .deleteBackend | .deleteServer => true
  | _ => false

/-- The statuses by which a commit is rejected, with what failures say of them. -/
def rejections : List (Nat × String) :=
  [(400, "bad request"), (404, "transaction not found"), (406, "configuration cannot be handled")]

/-- What is made of a status that has a failure of its own. -/
def refusal? : Purpose → Nat → Option ClientError
  | .opening, status => if status = 409 then some .transactionConflict else none
  | .commit id, status =>
    (rejections.find? (·.1 = status)).map fun r => .commitRejected id status r.2
  | .discard id, status => if status = 404 then some (.transactionNotFound id) else none
  | _, _ => none

end Purpose
end DataPlane

open DataPlane in
/-- Whether a pass goes on with the answer: a version that can be read, a transaction, a backend
that is absent or belongs to this program, a check list or a server that is absent or can be read, a
list of servers that can be read, a deletion that was accepted or of what is absent, and anything
else that was accepted. -/
def Sent.isAcceptable (x : Sent) : Bool :=
  match x.request.purpose with
  | .version => x.reply.version?.isSome
  | .opening => x.reply.granted?.isSome
  | .getBackend _ =>
    x.reply.isAbsent || (x.reply.tells Wire.Backend.ofJson?).any (·.isManaged)
  | .getChecks =>
    x.reply.isAbsent || (x.reply.tells (Json.list? Wire.HttpCheck.ofJson?)).isSome
  | .listServers => (x.reply.tells (Json.list? Wire.Server.ofJson?)).isSome
  | .getServer => x.reply.isAbsent || (x.reply.tells Wire.Server.ofJson?).isSome
  | .deleteBackend | .deleteServer => x.reply.isAbsent || x.reply.isAccepted
  | _ => x.reply.isAccepted

/-- That body of an accepted answer cannot be read as an object of that kind, which was asked
for. -/
def Sent.IsIllegible (what body : String) (x : Sent) : Prop :=
  ∃ status legible, x.reply = .answered status body ∧ DataPlane.isSuccess status = true ∧
    x.request.purpose.reading? = some (what, legible) ∧ (Json.parse? body).any legible = false

open DataPlane in
/-- The failure of a request, by what came of it. -/
inductive Sent.Fails (c : Client) (x : Sent) : ClientError → Prop
  /-- The request or its answer was lost. -/
  | transport {cause : String} (lost : x.reply = .lost cause) :
    Fails c x (.transport (c.shownAddress x.request.endpoint) cause)
  /-- No transaction is opened because of others. -/
  | conflict (opening : x.request.purpose = .opening) (status : x.reply.status? = some 409) :
    Fails c x .transactionConflict
  /-- The commit is rejected. -/
  | rejected {id why : String} {status : Nat} (commit : x.request.purpose = .commit id)
      (answered : x.reply.status? = some status) (why_mem : (status, why) ∈ Purpose.rejections) :
    Fails c x (.commitRejected id status why)
  /-- The transaction to discard is not there. -/
  | missing {id : String} (discard : x.request.purpose = .discard id)
      (status : x.reply.status? = some 404) : Fails c x (.transactionNotFound id)
  /-- The backend belongs to somebody else. -/
  | foreign {name : String} (finds : x.FindsForeign (.backend name)) :
    Fails c x (.notManaged "backend" name)
  /-- What was accepted does not tell a version. -/
  | unversioned {status : Nat} {body : String} (version : x.request.purpose = .version)
      (answered : x.reply = .answered status body) (accepted : isSuccess status = true)
      (untold : version? body = none) : Fails c x (.versionParse (Text.trim body))
  /-- What was accepted cannot be read. -/
  | illegible {what body : String} (illegible : x.IsIllegible what body) :
    Fails c x (.decode what (c.jsonDetail what body))
  /-- The request is refused with any other status. -/
  | refused {status : Nat} {body : String} (answered : x.reply = .answered status body)
      (refused : isSuccess status = false)
      (plain : x.request.purpose.refusal? status = none)
      (present : (x.request.purpose.allowsAbsence && status == 404) = false) :
    Fails c x (.apiResponse x.request.purpose.operation status body)

namespace DataPlane

/-! ## The failure that is made of an answer -/

namespace Purpose

/-- What is wrong with an accepted body. -/
def objection? (p : Purpose) (c : Client) (body : String) : Option ClientError :=
  match p with
  | .version =>
    match version? body with
    | some _ => none
    | none => some (.versionParse (Text.trim body))
  | .getBackend name =>
    match (Json.parse? body).bind Wire.Backend.ofJson? with
    | some b => if b.isManaged then none else some (.notManaged "backend" name)
    | none => some (.decode "backend" (c.jsonDetail "backend" body))
  | p =>
    match p.reading? with
    | some (what, legible) =>
      if (Json.parse? body).any legible then none
      else some (.decode what (c.jsonDetail what body))
    | none => none

/-- What is made of an answer. -/
def verdict (p : Purpose) (c : Client) (status : Nat) (body : String) : Option ClientError :=
  match p.refusal? status with
  | some e => some e
  | none =>
    if isSuccess status then p.objection? c body
    else if p.allowsAbsence && status == 404 then none
    else some (.apiResponse p.operation status body)

end Purpose

/-- The failure that is made of what came of a request, if any. -/
def Client.verdict (c : Client) (x : Sent) : Option ClientError :=
  match x.reply with
  | .lost cause => some (.transport (c.shownAddress x.request.endpoint) cause)
  | .answered status body => x.request.purpose.verdict c status body

theorem Reply.status?_eq_some {reply : Reply} {status : Nat} :
    reply.status? = some status ↔ ∃ body, reply = .answered status body := by
  cases reply <;> simp [Reply.status?, eq_comm]

theorem Reply.tells_eq_some {α : Type} {read : Json → Option α} {reply : Reply} {a : α} :
    reply.tells read = some a ↔ ∃ status body, reply = .answered status body ∧
      isSuccess status = true ∧ (Json.parse? body).bind read = some a := by
  cases reply with
  | lost cause => simp [Reply.tells]
  | answered status body =>
    rw [Reply.tells]
    constructor
    · intro h
      split at h
      · exact ⟨status, body, rfl, ‹_›, h⟩
      · cases h
    · rintro ⟨_, _, ⟨⟩, hs, h⟩
      rw [if_pos hs, h]

namespace Purpose
variable {p : Purpose} {c : Client} {status : Nat} {body : String} {e : ClientError}

theorem find?_rejections {r : Nat × String} :
    rejections.find? (·.1 = status) = some r ↔ r ∈ rejections ∧ r.1 = status := by
  constructor
  · intro h
    exact ⟨List.mem_of_find?_eq_some h, by simpa using List.find?_some h⟩
  · rintro ⟨hr, rfl⟩
    revert r
    decide

/-- The statuses that have a failure of their own. -/
theorem refusal?_eq_some : p.refusal? status = some e ↔
    (p = .opening ∧ status = 409 ∧ e = .transactionConflict) ∨
      (∃ id why, p = .commit id ∧ (status, why) ∈ rejections ∧ e = .commitRejected id status why) ∨
      ∃ id, p = .discard id ∧ status = 404 ∧ e = .transactionNotFound id := by
  cases p <;> simp only [refusal?, reduceCtorEq, false_and, exists_false, or_false, false_or]
  case opening => simp [eq_comm]
  case discard id => simp [eq_comm]
  case commit id =>
    simp only [Option.map_eq_some_iff, find?_rejections, Purpose.commit.injEq]
    constructor
    · rintro ⟨⟨_, why⟩, ⟨hr, rfl⟩, rfl⟩
      exact ⟨id, why, rfl, hr, rfl⟩
    · rintro ⟨_, why, rfl, hr, rfl⟩
      exact ⟨(status, why), ⟨hr, rfl⟩, rfl⟩

theorem refusal?_of_isSuccess (h : isSuccess status = true) : p.refusal? status = none := by
  cases hr : p.refusal? status with
  | none => rfl
  | some e =>
    obtain ⟨_, rfl, _⟩ | ⟨_, _, _, hmem, _⟩ | ⟨_, _, rfl, _⟩ := refusal?_eq_some.1 hr
    · cases h
    · have hno : ∀ r ∈ rejections, isSuccess r.1 = false := by decide
      rw [hno _ hmem] at h
      cases h
    · cases h

theorem refusal?_of_allowsAbsence (h : p.allowsAbsence = true) : p.refusal? status = none := by
  cases p <;> first | rfl | cases h

/-- The ways in which an answer fails. -/
theorem verdict_eq_some : p.verdict c status body = some e ↔
    p.refusal? status = some e ∨
      (isSuccess status = true ∧ p.objection? c body = some e) ∨
      (isSuccess status = false ∧ p.refusal? status = none ∧
        (p.allowsAbsence && status == 404) = false ∧ e = .apiResponse p.operation status body) := by
  rw [verdict]
  cases hr : p.refusal? status with
  | some e' =>
    have hs : isSuccess status = false := by
      cases hs : isSuccess status with
      | false => rfl
      | true => rw [refusal?_of_isSuccess hs] at hr; cases hr
    simp [hs]
  | none =>
    cases hs : isSuccess status with
    | true => simp
    | false =>
      cases (p.allowsAbsence && status == 404) <;> simp [eq_comm]

theorem verdict_eq_none : p.verdict c status body = none ↔
    (isSuccess status = true ∧ p.objection? c body = none) ∨
      (p.allowsAbsence && status == 404) = true := by
  rw [verdict]
  cases ha : p.allowsAbsence && status == 404 with
  | true =>
    obtain ⟨habsence, h404⟩ := Bool.and_eq_true_iff.1 ha
    have hs : isSuccess status = false := by rw [beq_iff_eq.1 h404]; rfl
    simp [refusal?_of_allowsAbsence habsence, hs]
  | false =>
    cases hs : isSuccess status with
    | true => simp [refusal?_of_isSuccess hs]
    | false => cases p.refusal? status <;> simp

/-- What can be wrong with an accepted body. -/
theorem objection?_eq_some : p.objection? c body = some e ↔
    (p = .version ∧ version? body = none ∧ e = .versionParse (Text.trim body)) ∨
      (∃ name b, p = .getBackend name ∧ (Json.parse? body).bind Wire.Backend.ofJson? = some b ∧
        b.isManaged = false ∧ e = .notManaged "backend" name) ∨
      ∃ what legible, p.reading? = some (what, legible) ∧
        (Json.parse? body).any legible = false ∧ e = .decode what (c.jsonDetail what body) := by
  cases p
  case version => cases hv : version? body <;> simp [objection?, reading?, hv, @eq_comm _ e]
  case getBackend name =>
    cases hb : (Json.parse? body).bind Wire.Backend.ofJson? with
    | none =>
      have hany : (Json.parse? body).any (fun j => (Wire.Backend.ofJson? j).isSome) = false := by
        rw [← Option.isSome_bind, hb]
        rfl
      simp [objection?, reading?, hb, hany, @eq_comm _ e, and_assoc]
    | some b =>
      have hany : (Json.parse? body).any (fun j => (Wire.Backend.ofJson? j).isSome) = true := by
        rw [← Option.isSome_bind, hb]
        rfl
      cases hm : b.isManaged <;> simp [objection?, reading?, hb, hm, hany, @eq_comm _ e, and_assoc]
  all_goals simp [objection?, reading?, @eq_comm _ e, and_assoc]

end Purpose

namespace Client
variable {c : Client} {x : Sent}

/-- Just the acceptable answers are no failures. -/
theorem verdict_eq_none_iff : c.verdict x = none ↔ x.isAcceptable = true := by
  obtain ⟨q, reply⟩ := x
  simp only [verdict, Sent.isAcceptable]
  generalize q.purpose = p
  cases reply with
  | lost cause =>
    cases p <;> simp [Reply.version?, Reply.granted?, Reply.tells, Reply.isAbsent, Reply.isAccepted,
      Reply.status?]
  | answered status body =>
    rw [Purpose.verdict_eq_none]
    cases hs : isSuccess status with
    | false =>
      cases p <;> simp [hs, Purpose.allowsAbsence, Reply.version?, Reply.granted?, Reply.tells,
        Reply.isAbsent, Reply.isAccepted, Reply.status?]
    | true =>
      have h404 : status ≠ 404 := by
        rintro rfl
        cases hs
      have hversion : (match version? body with
          | some _ => none
          | none => some (ClientError.versionParse (Text.trim body))) = none ↔
          (version? body).isSome = true := by
        cases version? body <;> simp
      have hbackend (name : String) : (match (Json.parse? body).bind Wire.Backend.ofJson? with
          | some b => if b.isManaged then none else some (ClientError.notManaged "backend" name)
          | none => some (.decode "backend" (c.jsonDetail "backend" body))) = none ↔
          ((Json.parse? body).bind Wire.Backend.ofJson?).any (·.isManaged) = true := by
        cases (Json.parse? body).bind Wire.Backend.ofJson? <;> simp
      cases p <;> simp [hs, h404, hversion, hbackend, Purpose.objection?, Purpose.reading?,
        Reply.version?, Reply.granted?, Reply.tells, Reply.isAbsent, Reply.isAccepted,
        Reply.status?, Option.isSome_bind]

theorem purpose_eq_getBackend {q : Request} {name : String} :
    q.purpose = .getBackend name ↔ q.LooksAt (.backend name) := by
  rw [Request.LooksAt, Section.segments]
  constructor
  · intro h
    rw [Request.purpose.eq_def] at h
    split at h <;> cases h
    rename_i harea hmethod hsegments
    exact ⟨hmethod, harea, hsegments⟩
  · rintro ⟨hmethod, harea, hsegments⟩
    rw [Request.purpose, hmethod, harea, hsegments]
    rfl

theorem findsForeign_iff {name : String} : x.FindsForeign (.backend name) ↔
    x.request.purpose = .getBackend name ∧
      ∃ b, x.reply.tells Wire.Backend.ofJson? = some b ∧ b.isManaged = false := by
  rw [Sent.FindsForeign, purpose_eq_getBackend]
  refine and_congr_right fun _ => ?_
  have htells : x.reply.tells (Section.backend name).description? =
      (x.reply.tells Wire.Backend.ofJson?).map (·.description) :=
    tells_map (fun _ => rfl) x.reply
  rw [htells]
  cases x.reply.tells Wire.Backend.ofJson? with
  | none => simp
  | some b => simp [← isManaged_backend b]

theorem verdict_of_refusal {status : Nat} {e : ClientError}
    (hstatus : x.reply.status? = some status) (h : x.request.purpose.refusal? status = some e) :
    c.verdict x = some e := by
  obtain ⟨body, hreply⟩ := Reply.status?_eq_some.1 hstatus
  rw [verdict, hreply]
  exact Purpose.verdict_eq_some.2 (.inl h)

theorem verdict_of_objection {status : Nat} {body : String} {e : ClientError}
    (hreply : x.reply = .answered status body) (hs : isSuccess status = true)
    (h : x.request.purpose.objection? c body = some e) : c.verdict x = some e := by
  rw [verdict, hreply]
  exact Purpose.verdict_eq_some.2 (.inr (.inl ⟨hs, h⟩))

theorem fails_of_verdict {e : ClientError} (h : c.verdict x = some e) : x.Fails c e := by
  rw [verdict] at h
  cases hreply : x.reply with
  | lost cause =>
    rw [hreply] at h
    cases h
    exact .transport hreply
  | answered status body =>
    have hstatus : x.reply.status? = some status := by rw [hreply]; rfl
    rw [hreply] at h
    obtain hr | ⟨hs, ho⟩ | ⟨hs, hr, habsent, rfl⟩ := Purpose.verdict_eq_some.1 h
    · obtain ⟨hp, rfl, rfl⟩ | ⟨id, why, hp, hmem, rfl⟩ | ⟨id, hp, rfl, rfl⟩ :=
        Purpose.refusal?_eq_some.1 hr
      · exact .conflict hp hstatus
      · exact .rejected hp hstatus hmem
      · exact .missing hp hstatus
    · obtain ⟨hp, hv, rfl⟩ | ⟨name, b, hp, hb, hm, rfl⟩ | ⟨what, legible, hp, hany, rfl⟩ :=
        Purpose.objection?_eq_some.1 ho
      · exact .unversioned hp hreply hs hv
      · have htells : x.reply.tells Wire.Backend.ofJson? = some b := by
          simpa [hreply, Reply.tells, hs] using hb
        exact .foreign (findsForeign_iff.2 ⟨hp, b, htells, hm⟩)
      · exact .illegible ⟨status, legible, hreply, hs, hp, hany⟩
    · exact .refused hreply hs hr habsent

theorem verdict_of_fails {e : ClientError} (h : x.Fails c e) : c.verdict x = some e := by
  cases h with
  | transport lost => rw [verdict, lost]
  | conflict hp hstatus =>
    exact verdict_of_refusal hstatus (Purpose.refusal?_eq_some.2 (.inl ⟨hp, rfl, rfl⟩))
  | rejected hp hstatus hmem =>
    exact verdict_of_refusal hstatus
      (Purpose.refusal?_eq_some.2 (.inr (.inl ⟨_, _, hp, hmem, rfl⟩)))
  | missing hp hstatus =>
    exact verdict_of_refusal hstatus (Purpose.refusal?_eq_some.2 (.inr (.inr ⟨_, hp, rfl, rfl⟩)))
  | foreign hfinds =>
    obtain ⟨hp, b, htells, hm⟩ := findsForeign_iff.1 hfinds
    obtain ⟨status, body, hreply, hs, hb⟩ := Reply.tells_eq_some.1 htells
    exact verdict_of_objection hreply hs
      (Purpose.objection?_eq_some.2 (.inr (.inl ⟨_, b, hp, hb, hm, rfl⟩)))
  | unversioned hp hreply hs hv =>
    exact verdict_of_objection hreply hs (Purpose.objection?_eq_some.2 (.inl ⟨hp, hv, rfl⟩))
  | illegible h =>
    obtain ⟨status, legible, hreply, hs, hp, hany⟩ := h
    exact verdict_of_objection hreply hs
      (Purpose.objection?_eq_some.2 (.inr (.inr ⟨_, legible, hp, hany, rfl⟩)))
  | refused hreply hs hr habsent =>
    rw [verdict, hreply]
    exact Purpose.verdict_eq_some.2 (.inr (.inr ⟨hs, hr, habsent, rfl⟩))

/-- The verdict is the failure of the exchange. -/
theorem verdict_eq_some {e : ClientError} : c.verdict x = some e ↔ x.Fails c e :=
  ⟨fails_of_verdict, verdict_of_fails⟩

end Client
end DataPlane
end ProxySync
