import ProxySync.Proofs.DataPlane.Naming
import ProxySync.Proofs.Session.Attribution
import ProxySync.Proofs.Session.Operations
/-!
# What a synchronization of servers asks for

Every wanted server has its turn: it is looked at, and written if it is absent or disagrees. Then
the list of servers is asked for, and those are deleted that it tells and that are not wanted. The
first answer with which this cannot go on ends it. A deletion is asked for by a name that is not
wanted, and still goes to a wanted server if the two names only differ in tabs and line ends.

## Main definitions

* `Client.Turn`: the ways in which the turn of a wanted server can go.
* `Client.Ensuring`, `Client.Deleting`, `Client.Syncing`: the courses of the two loops and of the
  whole synchronization.
* `ServerReport.ofSent`: the names of the servers whose writes were accepted.
* `Client.SyncsInOrder`: what a synchronization asks for, in which order, and what it returns.

## Main statements

* `Client.syncing_syncServers`: a synchronization takes one of these courses.
* `Client.Syncing.report_eq`: what it reports are the writes that were accepted.
* `Client.syncServers_inOrder`: whatever the Data Plane replies, it is in order.
* `Client.wanted_server_deleted`: a wanted server that is deleted for another name.
-/
namespace ProxySync

namespace DataPlane

/-- The server that a request is about. A body tells it where a server is created, and the path
elsewhere. -/
def Request.serverName? (q : Request) : Option String :=
  match q.method, q.endpoint.segments with
  | .post, ["backends", _, "servers"] => (q.body.bind (Json.field? "name")).bind Json.text?
  | _, ["backends", _, "servers", name] => some name
  | _, _ => none

end DataPlane

/-- The servers about which requests of a method were accepted, in order. -/
def Sent.accepted (m : DataPlane.Method) (sent : List Sent) : List String :=
  (sent.filter fun x => x.request.method = m && x.changes).filterMap (·.request.serverName?)

namespace ServerReport

/-- What two synchronizations report, one after the other. -/
def append (a b : ServerReport) : ServerReport :=
  { created := a.created ++ b.created, updated := a.updated ++ b.updated
    deleted := a.deleted ++ b.deleted }

@[simp] theorem append_empty (a : ServerReport) : a.append .empty = a := by
  simp [append, empty]

@[simp] theorem empty_append (a : ServerReport) : empty.append a = a := by
  simp [append, empty]

theorem append_assoc (a b d : ServerReport) : (a.append b).append d = a.append (b.append d) := by
  simp [append]

/-- A note is put behind what was noted before. -/
theorem note_eq_append (name : String) (a : ServerReport) (change : Change) :
    a.note name change = a.append (empty.note name change) := by
  cases change <;> simp [note, append, empty]

/-- The servers whose creation, replacement and deletion was accepted. -/
def ofSent (sent : List Sent) : ServerReport :=
  { created := Sent.accepted .post sent, updated := Sent.accepted .put sent
    deleted := Sent.accepted .delete sent }

@[simp] theorem ofSent_nil : ofSent [] = empty := rfl

theorem ofSent_append (sent₁ sent₂ : List Sent) :
    ofSent (sent₁ ++ sent₂) = (ofSent sent₁).append (ofSent sent₂) := by
  simp [ofSent, append, Sent.accepted]

/-- A request that is not an accepted write is not noted. -/
theorem ofSent_of_not_changes {x : Sent} (h : x.changes = false) : ofSent [x] = empty := by
  simp [ofSent, Sent.accepted, h, empty]

end ServerReport

namespace DataPlane.Client
open SessionM
variable {c : Client} {backend : String} {w : Wire.Server} {wanted : List Wire.Server}
  {s s' : Session} {sent : List Sent}

/-! ## The requests -/

/-- The request for one server. -/
def lookAtServer (backend name : String) (parameter : String × String) : Request :=
  scopedRequest .get ["backends", backend, "servers", name] none parameter

/-- The request that creates a server. -/
def createServer (backend : String) (w : Wire.Server) (parameter : String × String) : Request :=
  scopedRequest .post ["backends", backend, "servers"] (some w.toJson) parameter

/-- The request that puts a server in place of the one with its name. -/
def replaceServer (backend : String) (w : Wire.Server) (parameter : String × String) : Request :=
  scopedRequest .put ["backends", backend, "servers", w.name] (some w.toJson) parameter

/-- The request for the servers of a backend. -/
def lookAtServers (backend : String) (parameter : String × String) : Request :=
  scopedRequest .get ["backends", backend, "servers"] none parameter

/-- The request that deletes a server. -/
def removeServer (backend name : String) (parameter : String × String) : Request :=
  scopedRequest .delete ["backends", backend, "servers", name] none parameter

/-- The list of servers that a reply tells. -/
def toldServers (reply : Reply) : Option (List Wire.Server) :=
  reply.tells (Json.list? Wire.Server.ofJson?)

/-- The names of the servers that are not wanted, in order. -/
def unwanted (wanted servers : List Wire.Server) : List String :=
  (servers.map (·.name)).filter fun n => !(wanted.map (·.name)).contains n

theorem mem_unwanted {servers : List Wire.Server} {name : String} :
    name ∈ unwanted wanted servers ↔
      name ∈ servers.map (·.name) ∧ name ∉ wanted.map (·.name) := by
  rw [unwanted, List.mem_filter, Bool.not_eq_true', ← Bool.not_eq_true, List.contains_iff_mem]

section
variable {name : String} {q : String × String} {reply : Reply}

theorem serverName?_createServer : (createServer backend w q).serverName? = some w.name := by
  have hname : Json.field? "name" w.toJson = some (.str w.name) := by
    cases hport : w.port <;> cases hid : w.id <;> cases hcheck : w.check <;>
      simp [Wire.Server.toJson, Json.ofFields, Json.field?, hport, hid, hcheck]
  simp [Request.serverName?, createServer, scopedRequest, hname, Json.text?]

theorem ofSent_lookAtServer : ServerReport.ofSent [⟨lookAtServer backend name q, reply⟩] = .empty :=
  ServerReport.ofSent_of_not_changes (Sent.changes_of_get rfl)

theorem ofSent_lookAtServers : ServerReport.ofSent [⟨lookAtServers backend q, reply⟩] = .empty :=
  ServerReport.ofSent_of_not_changes (Sent.changes_of_get rfl)

theorem changes_createServer (h : reply.isAccepted = true) :
    Sent.changes ⟨createServer backend w q, reply⟩ = true := by
  cases reply with
  | lost cause => cases h
  | answered status body => exact h

theorem changes_replaceServer (h : reply.isAccepted = true) :
    Sent.changes ⟨replaceServer backend w q, reply⟩ = true := by
  cases reply with
  | lost cause => cases h
  | answered status body => exact h

/-- An accepted creation is noted as one. -/
theorem ofSent_createServer (h : reply.isAccepted = true) :
    ServerReport.ofSent [⟨createServer backend w q, reply⟩] =
      ServerReport.empty.note w.name .created := by
  have hmethod : (createServer backend w q).method = .post := rfl
  simp [ServerReport.ofSent, Sent.accepted, hmethod, changes_createServer h,
    serverName?_createServer, ServerReport.note, ServerReport.empty]

/-- An accepted replacement is noted as one. -/
theorem ofSent_replaceServer (h : reply.isAccepted = true) :
    ServerReport.ofSent [⟨replaceServer backend w q, reply⟩] =
      ServerReport.empty.note w.name .updated := by
  have hmethod : (replaceServer backend w q).method = .put := rfl
  have hname : (replaceServer backend w q).serverName? = some w.name := rfl
  simp [ServerReport.ofSent, Sent.accepted, hmethod, changes_replaceServer h, hname,
    ServerReport.note, ServerReport.empty]

/-- A deletion is noted just if it is accepted. -/
theorem ofSent_removeServer :
    ServerReport.ofSent [⟨removeServer backend name q, reply⟩] =
      ServerReport.empty.note name (removal reply) := by
  have hmethod : (removeServer backend name q).method = .delete := rfl
  have hname : (removeServer backend name q).serverName? = some name := rfl
  by_cases h : reply.accepts .delete = true <;>
    simp [ServerReport.ofSent, Sent.accepted, hmethod, Sent.changes, h, hname, removal,
      ServerReport.note, ServerReport.empty]

end

/-! ## The turn of a wanted server -/

/-- The ways in which the turn of a wanted server can go, whatever is read of the version. -/
inductive Turn (backend : String) (w : Wire.Server) :
    List Sent → Except ClientError Change → Prop
  /-- It fails before the server is looked at. -/
  | unasked {e : ClientError} : Turn backend w [] (.error e)
  /-- It fails by the look, or before anything is written. -/
  | unwritten {q : String × String} {reply : Reply} {e : ClientError} :
    Turn backend w [⟨lookAtServer backend w.name q, reply⟩] (.error e)
  /-- The server agrees. -/
  | kept {q : String × String} {reply : Reply} {current : Wire.Server}
      (told : reply.tells Wire.Server.ofJson? = some current) (agrees : current.same w = true) :
    Turn backend w [⟨lookAtServer backend w.name q, reply⟩] (.ok .unchanged)
  /-- There is none, and one is created if that is accepted. -/
  | created {q q' : String × String} {reply reply' : Reply} {r : Except ClientError Unit}
      (absent : reply.isAbsent = true) (outcome : r.isOk = reply'.isAccepted) :
    Turn backend w
      [⟨lookAtServer backend w.name q, reply⟩, ⟨createServer backend w q', reply'⟩]
      (r.map fun _ => .created)
  /-- The server disagrees, and is replaced if that is accepted. -/
  | replaced {q q' : String × String} {reply reply' : Reply} {current : Wire.Server}
      {r : Except ClientError Unit} (told : reply.tells Wire.Server.ofJson? = some current)
      (disagrees : current.same w = false) (outcome : r.isOk = reply'.isAccepted) :
    Turn backend w
      [⟨lookAtServer backend w.name q, reply⟩, ⟨replaceServer backend w q', reply'⟩]
      (r.map fun _ => .updated)

/-- The turn of a server goes in one of these ways. -/
theorem turn_ensureServer {r : Except ClientError Change}
    (h : Conduct (c.ensureServer backend w) s sent r s') :
    Turn backend w (Sent.asked sent) r := by
  have hlook : Poses c (c.getServer backend w.name) .get ["backends", backend, "servers", w.name]
      none (c.foundIn "get server" "server" Wire.Server.ofJson?) := poses_find?
  rw [ensureServer] at h
  obtain ⟨front, back, found, s₁, rfl, hlooked, hrest⟩ | ⟨e, rfl, hlooked⟩ := conduct_bind.1 h
  · obtain ⟨_, he, _⟩ | ⟨q, reply, hasked, hr⟩ := hlook.asked hlooked
    · cases he
    rw [Sent.asked_append, hasked]
    rcases of_found hr with ⟨rfl, habsent⟩ | ⟨hfound, hsome⟩
    · obtain ⟨r₀, rfl, hwrite⟩ := conduct_bind_pure.1 hrest
      obtain ⟨e, rfl, hnone⟩ | ⟨q', reply', hone, hr'⟩ := (poses_write (.inl rfl)).asked hwrite
      · rw [hnone]
        exact .unwritten
      · rw [hone]
        exact .created habsent (by rw [hr', isOk_written])
    · obtain ⟨current, rfl⟩ := Option.isSome_iff_exists.1 hsome
      simp only at hrest
      by_cases hsame : current.same w = true
      · simp only [hsame, Bool.not_true, Bool.false_eq_true, if_false] at hrest
        obtain ⟨rfl, rfl, _⟩ := conduct_pure.1 hrest
        exact .kept hfound.symm hsame
      · rw [Bool.not_eq_true] at hsame
        simp only [hsame, Bool.not_false, if_true] at hrest
        obtain ⟨r₀, rfl, hwrite⟩ := conduct_bind_pure.1 hrest
        obtain ⟨e, rfl, hnone⟩ | ⟨q', reply', hone, hr'⟩ := (poses_write (.inr rfl)).asked hwrite
        · rw [hnone]
          exact .unwritten
        · rw [hone]
          exact .replaced hfound.symm hsame (by rw [hr', isOk_written])
  · obtain ⟨_, _, hasked⟩ | ⟨q, reply, hasked, _⟩ := hlook.asked hlooked
    · rw [hasked]
      exact .unasked
    · rw [hasked]
      exact .unwritten

/-- The request is for the servers of the backend. -/
def IsListing (backend : String) (q : Request) : Prop :=
  ∃ parameter, q = lookAtServers backend parameter

namespace Turn

/-- A turn neither asks for the list nor deletes. -/
theorem quiet {turn : List Sent} {r : Except ClientError Change} (h : Turn backend w turn r) :
    ∀ x ∈ turn, x.request.method ≠ .delete ∧ ¬ IsListing backend x.request := by
  have hlook (q : String × String) : (lookAtServer backend w.name q).method ≠ .delete ∧
      ¬ IsListing backend (lookAtServer backend w.name q) := by
    simp [IsListing, lookAtServer, lookAtServers, scopedRequest]
  have hcreate (q : String × String) : (createServer backend w q).method ≠ .delete ∧
      ¬ IsListing backend (createServer backend w q) := by
    simp [IsListing, createServer, lookAtServers, scopedRequest]
  have hreplace (q : String × String) : (replaceServer backend w q).method ≠ .delete ∧
      ¬ IsListing backend (replaceServer backend w q) := by
    simp [IsListing, replaceServer, lookAtServers, scopedRequest]
  cases h with
  | unasked => simp
  | unwritten => simpa using hlook _
  | kept => simpa using hlook _
  | created => simpa using ⟨hlook _, hcreate _⟩
  | replaced => simpa using ⟨hlook _, hreplace _⟩

/-- What is noted of a server is what was accepted in its turn. -/
theorem note_eq {turn : List Sent} {change : Change} (h : Turn backend w turn (.ok change)) :
    ServerReport.empty.note w.name change = .ofSent turn := by
  generalize hr : Except.ok change = r at h
  cases h with
  | unasked => cases hr
  | unwritten => cases hr
  | kept =>
    cases hr
    rw [ofSent_lookAtServer]
    rfl
  | @created q q' reply reply' r₀ absent outcome =>
    cases r₀ with
    | error e => cases hr
    | ok a =>
      cases hr
      rw [← List.singleton_append, ServerReport.ofSent_append, ofSent_lookAtServer,
        ofSent_createServer outcome.symm, ServerReport.empty_append]
  | @replaced q q' reply reply' current r₀ told disagrees outcome =>
    cases r₀ with
    | error e => cases hr
    | ok a =>
      cases hr
      rw [← List.singleton_append, ServerReport.ofSent_append, ofSent_lookAtServer,
        ofSent_replaceServer outcome.symm, ServerReport.empty_append]

end Turn

/-! ## The two loops -/

/-- The courses of the turns of wanted servers: the first that fails is the last. -/
inductive Ensuring (backend : String) : ServerReport → List Wire.Server → List (List Sent) →
    Except ClientError ServerReport → Prop
  | nil (report : ServerReport) : Ensuring backend report [] [] (.ok report)
  | stop {report : ServerReport} {w : Wire.Server} {ws : List Wire.Server} {turn : List Sent}
      {e : ClientError} (h : Turn backend w turn (.error e)) :
    Ensuring backend report (w :: ws) [turn] (.error e)
  | next {report : ServerReport} {w : Wire.Server} {ws : List Wire.Server} {turn : List Sent}
      {turns : List (List Sent)} {change : Change} {r : Except ClientError ServerReport}
      (h : Turn backend w turn (.ok change))
      (rest : Ensuring backend (report.note w.name change) ws turns r) :
    Ensuring backend report (w :: ws) (turn :: turns) r

theorem ensuring_ensureServers {ws : List Wire.Server} {report : ServerReport}
    {r : Except ClientError ServerReport}
    (h : Conduct (c.ensureServers backend report ws) s sent r s') :
    ∃ turns, Sent.asked sent = turns.flatten ∧ Ensuring backend report ws turns r := by
  induction ws generalizing report s sent r s' with
  | nil =>
    obtain ⟨rfl, rfl, _⟩ := conduct_pure.1 h
    exact ⟨[], rfl, .nil report⟩
  | cons w ws ih =>
    obtain ⟨front, back, change, s₁, rfl, hw, hrest⟩ | ⟨e, rfl, hw⟩ := conduct_bind.1 h
    · obtain ⟨turns, hasked, hturns⟩ := ih hrest
      refine ⟨Sent.asked front :: turns, ?_, .next (turn_ensureServer hw) hturns⟩
      rw [Sent.asked_append, hasked, List.flatten_cons]
    · exact ⟨[Sent.asked sent], by simp, .stop (turn_ensureServer hw)⟩

namespace Ensuring
variable {report report' : ServerReport} {ws : List Wire.Server} {turns : List (List Sent)}
  {r : Except ClientError ServerReport}

/-- The turns are those of the wanted servers in order, as far as they go. -/
theorem forall₂ (h : Ensuring backend report ws turns r) :
    List.Forall₂ (fun w turn => ∃ r, Turn backend w turn r) (ws.take turns.length) turns := by
  induction h with
  | nil => exact .nil
  | stop hturn => exact .cons ⟨_, hturn⟩ .nil
  | next hturn _ ih => exact .cons ⟨_, hturn⟩ ih

/-- If none fails, every wanted server has its turn. -/
theorem passed (h : Ensuring backend report ws turns (.ok report')) :
    List.Forall₂ (fun w turn => ∃ change, Turn backend w turn (.ok change)) ws turns := by
  generalize hr : Except.ok report' = r at h
  induction h with
  | nil => exact .nil
  | stop => cases hr
  | next hturn _ ih => exact .cons ⟨_, hturn⟩ (ih hr)

theorem length_eq (h : Ensuring backend report ws turns (.ok report')) :
    turns.length = ws.length := h.passed.length_eq.symm

theorem report_eq (h : Ensuring backend report ws turns (.ok report')) :
    report' = report.append (.ofSent turns.flatten) := by
  generalize hr : Except.ok report' = r at h
  induction h with
  | nil =>
    cases hr
    simp
  | stop => cases hr
  | next hturn _ ih =>
    rw [ih hr, ServerReport.note_eq_append, hturn.note_eq, ServerReport.append_assoc,
      List.flatten_cons, ServerReport.ofSent_append]

end Ensuring

/-- The courses of deletions: the first that fails is the last. -/
inductive Deleting (backend : String) : ServerReport → List String → List Sent →
    Except ClientError ServerReport → Prop
  | nil (report : ServerReport) : Deleting backend report [] [] (.ok report)
  | unasked {report : ServerReport} {name : String} {names : List String} {e : ClientError} :
    Deleting backend report (name :: names) [] (.error e)
  | stop {report : ServerReport} {name : String} {names : List String} {q : String × String}
      {reply : Reply} {e : ClientError} :
    Deleting backend report (name :: names) [⟨removeServer backend name q, reply⟩] (.error e)
  | next {report : ServerReport} {name : String} {names : List String} {q : String × String}
      {reply : Reply} {rest : List Sent} {r : Except ClientError ServerReport}
      (h : Deleting backend (report.note name (removal reply)) names rest r) :
    Deleting backend report (name :: names) (⟨removeServer backend name q, reply⟩ :: rest) r

theorem deleting_deleteServers {names : List String} {report : ServerReport}
    {r : Except ClientError ServerReport}
    (h : Conduct (c.deleteServers backend report names) s sent r s') :
    Deleting backend report names (Sent.asked sent) r := by
  induction names generalizing report s sent r s' with
  | nil =>
    obtain ⟨rfl, rfl, _⟩ := conduct_pure.1 h
    exact .nil report
  | cons name names ih =>
    have hdelete : Poses c (c.deleteServer backend name) .delete
        ["backends", backend, "servers", name] none (deletedIn "delete server") := poses_delete
    obtain ⟨front, back, change, s₁, rfl, hname, hrest⟩ | ⟨e, rfl, hname⟩ := conduct_bind.1 h
    · obtain ⟨_, he, _⟩ | ⟨q, reply, hasked, hr⟩ := hdelete.asked hname
      · cases he
      have hdeleting := ih hrest
      rw [of_deleted hr] at hdeleting
      rw [Sent.asked_append, hasked]
      exact .next hdeleting
    · obtain ⟨_, _, hasked⟩ | ⟨q, reply, hasked, _⟩ := hdelete.asked hname
      · rw [hasked]
        exact .unasked
      · rw [hasked]
        exact .stop

namespace Deleting
variable {report report' : ServerReport} {names : List String}
  {r : Except ClientError ServerReport}

/-- Deletions are only asked for by these names. -/
theorem removes (h : Deleting backend report names sent r) :
    ∀ x ∈ sent, ∃ name ∈ names, ∃ q, x.request = removeServer backend name q := by
  induction h with
  | nil => simp
  | unasked => simp
  | @stop report name names q reply e =>
    intro x hx
    rw [List.mem_singleton.1 hx]
    exact ⟨name, List.mem_cons_self, q, rfl⟩
  | @next report name names q reply rest r _ ih =>
    intro x hx
    rcases List.mem_cons.1 hx with rfl | hx
    · exact ⟨name, List.mem_cons_self, q, rfl⟩
    · obtain ⟨n, hn, hq⟩ := ih x hx
      exact ⟨n, List.mem_cons_of_mem _ hn, hq⟩

/-- If none fails, they are asked for by each name, in order. -/
theorem names_eq (h : Deleting backend report names sent (.ok report')) :
    sent.map (·.request.serverName?) = names.map some := by
  generalize hr : Except.ok report' = r at h
  induction h with
  | nil => rfl
  | unasked => cases hr
  | stop => cases hr
  | next _ ih =>
    rw [List.map_cons, List.map_cons, ih hr]
    rfl

theorem report_eq (h : Deleting backend report names sent (.ok report')) :
    report' = report.append (.ofSent sent) := by
  generalize hr : Except.ok report' = r at h
  induction h with
  | nil =>
    cases hr
    simp
  | unasked => cases hr
  | stop => cases hr
  | @next report name names q reply rest r _ ih =>
    rw [ih hr, ServerReport.note_eq_append, ← ofSent_removeServer, ServerReport.append_assoc,
      ← ServerReport.ofSent_append, List.singleton_append]

end Deleting

/-! ## The whole synchronization -/

/-- The courses of a synchronization, whatever is read of the version. -/
inductive Syncing (backend : String) (wanted : List Wire.Server) :
    List Sent → Except ClientError ServerReport → Prop
  /-- A turn fails, or the list is not asked for. -/
  | unlisted {turns : List (List Sent)} {r : Except ClientError ServerReport} {e : ClientError}
      (ensuring : Ensuring backend .empty wanted turns r) :
    Syncing backend wanted turns.flatten (.error e)
  /-- No list is told. -/
  | untold {turns : List (List Sent)} {report : ServerReport} {q : String × String}
      {reply : Reply} {e : ClientError}
      (ensuring : Ensuring backend .empty wanted turns (.ok report)) :
    Syncing backend wanted (turns.flatten ++ [⟨lookAtServers backend q, reply⟩]) (.error e)
  /-- What the list tells and is not wanted is deleted. -/
  | told {turns : List (List Sent)} {report : ServerReport} {q : String × String} {reply : Reply}
      {servers : List Wire.Server} {removals : List Sent} {r : Except ClientError ServerReport}
      (ensuring : Ensuring backend .empty wanted turns (.ok report))
      (told : toldServers reply = some servers)
      (deleting : Deleting backend report (unwanted wanted servers) removals r) :
    Syncing backend wanted (turns.flatten ++ ⟨lookAtServers backend q, reply⟩ :: removals) r

/-- A synchronization takes one of these courses. -/
theorem syncing_syncServers {r : Except ClientError ServerReport}
    (h : Conduct (c.syncServers backend wanted) s sent r s') :
    Syncing backend wanted (Sent.asked sent) r := by
  have hlist : Poses c (c.listServers backend) .get ["backends", backend, "servers"] none
      (c.listedIn "list servers" "server list" Wire.Server.ofJson?) := poses_list
  rw [syncServers] at h
  obtain ⟨front, back, report, s₁, rfl, hensured, hrest⟩ | ⟨e, rfl, hensured⟩ := conduct_bind.1 h
  · obtain ⟨turns, hturns, hensuring⟩ := ensuring_ensureServers hensured
    rw [Sent.asked_append, hturns]
    obtain ⟨look, removals, servers, s₂, rfl, hlisted, hdeleted⟩ | ⟨e, rfl, hlisted⟩ :=
      conduct_bind.1 hrest
    · obtain ⟨_, he, _⟩ | ⟨q, reply, hlook, hr⟩ := hlist.asked hlisted
      · cases he
      rw [Sent.asked_append, hlook]
      exact .told hensuring (of_listed hr) (deleting_deleteServers hdeleted)
    · obtain ⟨_, _, hlook⟩ | ⟨q, reply, hlook, _⟩ := hlist.asked hlisted
      · rw [hlook, List.append_nil]
        exact .unlisted hensuring
      · rw [hlook]
        exact .untold hensuring
  · obtain ⟨turns, hturns, hensuring⟩ := ensuring_ensureServers hensured
    rw [hturns]
    exact .unlisted hensuring

/-- It asks for the list, and the list tells a server of that name. -/
def Lists (backend name : String) (look : Sent) : Prop :=
  IsListing backend look.request ∧
    ∃ servers, toldServers look.reply = some servers ∧ name ∈ servers.map (·.name)

/-- It asks to delete a server that is not wanted and that the list tells. -/
def Removes (backend : String) (wanted : List Wire.Server) (look x : Sent) : Prop :=
  ∃ name q, x.request = removeServer backend name q ∧ name ∉ wanted.map (·.name) ∧
    Lists backend name look

/-- What can be asked for behind the turns: the list, and then to delete what is not wanted. -/
inductive Closing (backend : String) (wanted : List Wire.Server) : List Sent → Prop
  | nil : Closing backend wanted []
  | listed {look : Sent} {removals : List Sent} (listing : IsListing backend look.request)
      (removes : ∀ x ∈ removals, Removes backend wanted look x) :
    Closing backend wanted (look :: removals)

/-- The turns of the wanted servers in order, as far as they go, and what is asked for behind
them, which is nothing unless all had their turn. -/
structure Course (backend : String) (wanted : List Wire.Server) (turns : List (List Sent))
    (closing : List Sent) : Prop where
  each : List.Forall₂ (fun w turn => ∃ r, Turn backend w turn r) (wanted.take turns.length) turns
  all : closing ≠ [] → turns.length = wanted.length
  closing : Closing backend wanted closing

/-- What a synchronization asks for but for the version, in which order, and what it returns. -/
structure SyncsInOrder (c : Client) (backend : String) (wanted : List Wire.Server)
    (sent : List Sent) (r : Except ClientError ServerReport) : Prop where
  /-- Every wanted server has its own turn: it is looked at and then written at most once, created
  if it is absent, and replaced if it is told and disagrees. The list comes behind the turns. -/
  course : ∃ turns closing, Sent.asked sent = turns.flatten ++ closing ∧
    Course backend wanted turns closing
  /-- Before the list nothing is deleted, and behind it nothing is looked at or written. -/
  listing : ∀ front x back, Sent.asked sent = front ++ x :: back → IsListing backend x.request →
    (∀ y ∈ front, y.request.method ≠ .delete) ∧ ∀ y ∈ back, y.request.method = .delete
  /-- A deletion is asked for by a name that is not wanted and that the list before it tells. -/
  removal : ∀ front x back, Sent.asked sent = front ++ x :: back → x.request.method = .delete →
    ∃ look ∈ front, Removes backend wanted look x
  /-- The first answer that is not acceptable is the last one, and its failure is returned. -/
  failed : ∀ e, r = .error e → ∃ front last, sent = front ++ [last] ∧
    (∀ x ∈ front, x.isAcceptable = true) ∧ last.isAcceptable = false ∧ last.Fails c e
  passed : ∀ report, r = .ok report → ∀ x ∈ sent, x.isAcceptable = true
  /-- A synchronization that ends well has made all that is wanted agree, and asked to delete all
  that the list tells and that is not wanted, in order. -/
  complete : ∀ report, r = .ok report → ∃ turns look removals servers,
    Sent.asked sent = turns.flatten ++ look :: removals ∧
    List.Forall₂ (fun w turn => ∃ change, Turn backend w turn (.ok change)) wanted turns ∧
    IsListing backend look.request ∧ toldServers look.reply = some servers ∧
    removals.map (·.request.serverName?) = (unwanted wanted servers).map some
  /-- It reports just the names of the servers whose writes were accepted, in order. -/
  report : ∀ report, r = .ok report → report = .ofSent (Sent.asked sent)

section
variable {turns : List (List Sent)} {closing : List Sent} {r : Except ClientError ServerReport}

theorem quiet_of_turns {ws : List Wire.Server}
    (h : List.Forall₂ (fun w turn => ∃ r, Turn backend w turn r) ws turns) :
    ∀ x ∈ turns.flatten, x.request.method ≠ .delete ∧ ¬ IsListing backend x.request := by
  induction h with
  | nil => simp
  | cons hturn _ ih =>
    obtain ⟨r, hturn⟩ := hturn
    intro x hx
    rw [List.flatten_cons, List.mem_append] at hx
    exact hx.elim (hturn.quiet x) (ih x)

theorem IsListing.method {q : Request} (h : IsListing backend q) : q.method = .get := by
  obtain ⟨_, rfl⟩ := h
  rfl

theorem Removes.method {look x : Sent} (h : Removes backend wanted look x) :
    x.request.method = .delete := by
  obtain ⟨_, _, hx, _⟩ := h
  rw [hx]
  rfl

theorem Deleting.removes_unwanted {report : ServerReport} {q : String × String} {reply : Reply}
    {servers : List Wire.Server} {removals : List Sent} (htold : toldServers reply = some servers)
    (h : Deleting backend report (unwanted wanted servers) removals r) :
    ∀ x ∈ removals, Removes backend wanted ⟨lookAtServers backend q, reply⟩ x := by
  intro x hx
  obtain ⟨name, hname, p, hp⟩ := h.removes x hx
  obtain ⟨hlisted, hunwanted⟩ := mem_unwanted.1 hname
  exact ⟨name, p, hp, hunwanted, ⟨q, rfl⟩, servers, htold, hlisted⟩

theorem Syncing.course (h : Syncing backend wanted sent r) :
    ∃ turns closing, sent = turns.flatten ++ closing ∧ Course backend wanted turns closing := by
  cases h with
  | @unlisted turns r e ensuring =>
    exact ⟨turns, [], by simp, ensuring.forall₂, by simp, .nil⟩
  | @untold turns report q reply e ensuring =>
    exact ⟨turns, _, rfl, ensuring.forall₂, fun _ => ensuring.length_eq, .listed ⟨q, rfl⟩ (by simp)⟩
  | @told turns report q reply servers removals r ensuring told deleting =>
    exact ⟨turns, _, rfl, ensuring.forall₂, fun _ => ensuring.length_eq,
      .listed ⟨q, rfl⟩ (deleting.removes_unwanted told)⟩

/-- Nothing is deleted before the list, and nothing but that is asked for behind it. -/
theorem Course.listing (h : Course backend wanted turns closing) {front back : List Sent} {x : Sent}
    (hsplit : turns.flatten ++ closing = front ++ x :: back) (hx : IsListing backend x.request) :
    (∀ y ∈ front, y.request.method ≠ .delete) ∧ ∀ y ∈ back, y.request.method = .delete := by
  have hquiet := quiet_of_turns h.each
  have hturns : x ∉ turns.flatten := fun hmem => (hquiet x hmem).2 hx
  cases h.closing with
  | nil => exact absurd (by rw [← List.append_nil turns.flatten, hsplit]; simp) hturns
  | @listed look removals listing removes =>
    have hremovals : x ∉ removals := by
      intro hmem
      have hmethod := (removes x hmem).method
      rw [hx.method] at hmethod
      cases hmethod
    obtain ⟨rfl, _, rfl⟩ := (List.append_cons_inj_of_notMem hturns hremovals).1 hsplit
    exact ⟨fun y hy => (hquiet y hy).1, fun y hy => (removes y hy).method⟩

/-- What stands neither in front of something nor in its place stands behind it. -/
theorem behind_of_split {α : Type} {front back first last : List α} {a x : α}
    (h : first ++ a :: last = front ++ x :: back) (hfirst : x ∉ first) (hne : x ≠ a) :
    a ∈ front ∧ x ∈ last := by
  induction first generalizing front with
  | nil =>
    obtain ⟨_, rfl, _⟩ | ⟨front', rfl, rfl⟩ := first_or_later h.symm
    · exact absurd rfl hne
    · simp
  | cons y first ih =>
    rw [List.mem_cons, not_or] at hfirst
    obtain ⟨_, rfl, _⟩ | ⟨front', rfl, hrest⟩ := first_or_later h.symm
    · exact absurd rfl hfirst.1
    · obtain ⟨ha, hx⟩ := ih hrest.symm hfirst.2
      exact ⟨List.mem_cons_of_mem _ ha, hx⟩

/-- What is deleted has been told by a list before. -/
theorem Course.removal (h : Course backend wanted turns closing) {front back : List Sent} {x : Sent}
    (hsplit : turns.flatten ++ closing = front ++ x :: back) (hx : x.request.method = .delete) :
    ∃ look ∈ front, Removes backend wanted look x := by
  have hquiet := quiet_of_turns h.each
  have hturns : x ∉ turns.flatten := fun hmem => (hquiet x hmem).1 hx
  cases h.closing with
  | nil => exact absurd (by rw [← List.append_nil turns.flatten, hsplit]; simp) hturns
  | @listed look removals listing removes =>
    have hne : x ≠ look := by
      rintro rfl
      rw [listing.method] at hx
      cases hx
    obtain ⟨hlook, hremoval⟩ := behind_of_split hsplit hturns hne
    exact ⟨look, hlook, removes x hremoval⟩

theorem Syncing.complete {report : ServerReport} (h : Syncing backend wanted sent (.ok report)) :
    ∃ turns look removals servers, sent = turns.flatten ++ look :: removals ∧
      List.Forall₂ (fun w turn => ∃ change, Turn backend w turn (.ok change)) wanted turns ∧
      IsListing backend look.request ∧ toldServers look.reply = some servers ∧
      removals.map (·.request.serverName?) = (unwanted wanted servers).map some := by
  cases h with
  | @told turns report' q reply servers removals r ensuring told deleting =>
    exact ⟨turns, _, removals, servers, rfl, ensuring.passed, ⟨q, rfl⟩, told, deleting.names_eq⟩

/-- A synchronization that ends well reports just what was accepted. -/
theorem Syncing.report_eq {report : ServerReport} (h : Syncing backend wanted sent (.ok report)) :
    report = .ofSent sent := by
  cases h with
  | @told turns report' q reply servers removals r ensuring told deleting =>
    rw [deleting.report_eq, ensuring.report_eq, ServerReport.empty_append,
      ← List.singleton_append, ServerReport.ofSent_append, ServerReport.ofSent_append,
      ofSent_lookAtServers, ServerReport.empty_append]

theorem syncsInOrder {r : Except ClientError ServerReport}
    (h : Conduct (c.syncServers backend wanted) s sent r s') :
    SyncsInOrder c backend wanted sent r := by
  have hsyncing := syncing_syncServers h
  obtain ⟨turns, closing, hasked, hcourse⟩ := hsyncing.course
  obtain ⟨hcharge, _⟩ := failsLast_syncServers (c := c) backend wanted _ _ _ _ h
  refine ⟨⟨turns, closing, hasked, hcourse⟩, fun front x back hsplit => ?_,
    fun front x back hsplit => ?_, fun e he => ?_, fun report hr => ?_, fun report hr => ?_,
    fun report hr => ?_⟩
  · exact hcourse.listing (hasked.symm.trans hsplit)
  · exact hcourse.removal (hasked.symm.trans hsplit)
  · subst he
    cases hcharge with
    | failed hfront hlast =>
      exact ⟨_, _, rfl, fun x hx => verdict_eq_none_iff.1 (hfront x hx),
        Charged.isAcceptable_eq_false.2 ⟨e, hlast⟩, verdict_eq_some.1 hlast⟩
  · subst hr
    exact fun x hx => verdict_eq_none_iff.1 (hcharge.verdict_eq_none x hx)
  · subst hr
    exact hsyncing.complete
  · subst hr
    exact hsyncing.report_eq

end

/-- A deletion goes to a server with a plain name just if that is kept of the name it is asked for
by. -/
theorem addresses_removeServer_iff (hc : c.HasPath) {name n : String} {q : String × String}
    (hbackend : Net.IsPlain backend) (hn : Net.IsPlain n) :
    c.Addresses (removeServer backend name q) (.server backend n) ↔ Net.Url.kept name = n :=
  hc.addresses_server_iff hbackend hn ⟨rfl, rfl⟩

/-- The requests of a synchronization in an environment, with their replies. -/
def sentBySync {σ : Type} (c : Client) (env : Environment interface σ) (backend : String)
    (wanted : List Wire.Server) (s : Session) (w : σ) : List Sent :=
  Sent.ofTrace (((c.syncServers backend wanted).start s).trace env w)

/-- Whatever the Data Plane replies, a synchronization of servers is in order. Where the backend and
a wanted server have plain names, a deletion goes to that server just if it is asked for by another
name, of which the wanted one is kept when tabs and line ends are dropped. -/
theorem syncServers_inOrder {σ : Type} (c : Client) (env : Environment interface σ)
    (backend : String) (wanted : List Wire.Server) (s : Session) (w : σ) :
    SyncsInOrder c backend wanted (c.sentBySync env backend wanted s w)
      (((c.syncServers backend wanted).start s).run env w).1.1 ∧
    (c.HasPath → Net.IsPlain backend → ∀ x ∈ Sent.asked (c.sentBySync env backend wanted s w),
      ∀ name q, x.request = removeServer backend name q → ∀ v ∈ wanted, Net.IsPlain v.name →
        (c.Addresses x.request (.server backend v.name) ↔
          name ≠ v.name ∧ Net.Url.kept name = v.name)) := by
  have hinOrder := syncsInOrder (conduct_run env (c.syncServers backend wanted) s w)
  refine ⟨hinOrder, fun hc hbackend x hx name q hq v hv hplain => ?_⟩
  have hother : name ≠ v.name := by
    rintro rfl
    obtain ⟨front, back, hsplit⟩ := List.append_of_mem hx
    obtain ⟨_, _, name', q', hq', hunwanted, _⟩ :=
      hinOrder.removal front x back hsplit (by rw [hq]; rfl)
    rw [hq] at hq'
    obtain rfl : v.name = name' := by
      simpa [removeServer, scopedRequest] using (congrArg (·.endpoint.segments) hq')
    exact hunwanted (List.mem_map_of_mem hv)
  rw [hq, addresses_removeServer_iff hc hbackend hplain, and_iff_right hother]

/-- A Data Plane that shows the same servers of every backend, and takes every write. -/
def showing (servers : List Wire.Server) : Environment interface Unit
  | .request q, w =>
    (match q.method, q.endpoint.segments with
      | .get, ["version"] => .answered 200 "1"
      | .get, ["backends", _, "servers"] =>
        .answered 200 (Json.arr (servers.map (·.toJson))).print
      | .get, ["backends", _, "servers", name] =>
        match servers.find? (·.name == name) with
        | some server => .answered 200 server.toJson.print
        | none => .answered 404 ""
      | .delete, _ => .answered 204 ""
      | _, _ => .answered 201 "", w)
  | .measure _, w => ((), w)

/-- A server of that name. -/
def sample (name : String) : Wire.Server :=
  { name, address := "10.0.0.1", port := none, id := none, check := none }

/-- Whether it is the accepted deletion of a server of the backend by that name. -/
def isRemoval (backend name : String) (x : Sent) : Bool :=
  x.request.method = .delete && x.request.endpoint.area = .configuration &&
    x.request.endpoint.segments = ["backends", backend, "servers", name] && x.changes

theorem isAbout_of_isRemoval {name : String} {x : Sent} (h : isRemoval backend name x = true) :
    x.request.method = .delete ∧ x.request.IsAbout (.server backend name) ∧ x.changes = true := by
  simp only [isRemoval, Bool.and_eq_true, decide_eq_true_eq] at h
  obtain ⟨⟨⟨hmethod, harea⟩, hsegments⟩, hchanges⟩ := h
  exact ⟨hmethod, ⟨harea, hsegments⟩, hchanges⟩

/-- A case of it: besides the wanted server there is another one. It is deleted, which goes to it
and not to the wanted one. -/
theorem syncServers_inOrder_beside :
    let c := onThisHost 5555 "admin" "secret"
    let sent := c.sentBySync (showing [sample "a", sample "b"]) "web" [sample "a"] .fresh ()
    c.HasPath ∧ Net.IsPlain "web" ∧ Net.IsPlain "a" ∧
      ∃ x ∈ Sent.asked sent, ∃ q, x.request = removeServer "web" "b" q ∧ x.changes = true ∧
        ¬ c.Addresses x.request (.server "web" "a") := by
  intro c sent
  have hc : c.HasPath := (atRoot_onThisHost 5555 "admin" "secret").hasPath
  have hremoved : (Sent.asked sent).any (isRemoval "web" "b") = true := by decide +kernel
  obtain ⟨hinOrder, harrives⟩ := syncServers_inOrder c
    (showing [sample "a", sample "b"]) "web" [sample "a"] .fresh ()
  obtain ⟨x, hx, hremoval⟩ := List.any_eq_true.1 hremoved
  obtain ⟨hdelete, habout, hchanges⟩ := isAbout_of_isRemoval hremoval
  obtain ⟨front, back, hsplit⟩ := List.append_of_mem hx
  obtain ⟨_, _, name, q, hq, _⟩ := hinOrder.removal front x back hsplit hdelete
  obtain rfl : name = "b" := by
    have hsegments := habout.2
    rw [hq] at hsegments
    simpa [removeServer, scopedRequest, Addressee.names] using hsegments
  refine ⟨hc, by decide, by decide, x, hx, q, hq, hchanges, fun haddresses => ?_⟩
  have hkept := (harrives hc (by decide) x hx "b" q hq (sample "a") (by simp) (by decide)).1
    haddresses
  exact absurd hkept.2 (by decide)

/-- Where the list tells the name of a wanted server once more with a tab behind it, the wanted
server itself is deleted. -/
theorem wanted_server_deleted :
    let c := onThisHost 5555 "admin" "secret"
    let sent := c.sentBySync (showing [sample "a", sample "a\t"]) "web" [sample "a"] .fresh ()
    ∃ x ∈ sent, x.request.method = .delete ∧ x.changes = true ∧
      c.Addresses x.request (.server "web" "a") := by
  intro c sent
  have hc : c.HasPath := (atRoot_onThisHost 5555 "admin" "secret").hasPath
  have hremoved : sent.any (isRemoval "web" "a\t") = true := by decide +kernel
  obtain ⟨x, hx, hremoval⟩ := List.any_eq_true.1 hremoved
  obtain ⟨hdelete, habout, hchanges⟩ := isAbout_of_isRemoval hremoval
  exact ⟨x, hx, hdelete, hchanges,
    (hc.addresses_server_iff (by decide) (by decide) habout).2 (by decide)⟩

end DataPlane.Client
end ProxySync
