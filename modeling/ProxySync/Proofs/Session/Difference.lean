import ProxySync.Proofs.DataPlane.Naming
import ProxySync.Proofs.Session.Settled
/-!
# Minimal writes

A pass writes what sets the backend apart from what is wanted: one request for each object that is
created, updated or deleted. It commits its transaction if it has something to report, and discards
it otherwise. What it reports is what it has written, but for deletions that were answered by saying
that there is no such server. That comes about if a name is not plain, for then the request for its
deletion goes elsewhere.

What is written for a value is settled by the program alone, whatever the Data Plane answers; that
the values are the difference is where the Data Plane comes in.

## Main definitions

* `SyncReport.requests`: the requests that belong to a report.
* `SyncReport.IsPartOf`: a report that tells of less deletions than another one, and of the rest.
* `Client.Writing`: what a step writes, from the value with which it ends.
* `Client.AppliesDifference`: the pass reports and writes exactly what sets the backend apart.

## Main statements

* `Client.writes_ensureServers`: each wanted server is written as it is noted.
* `Client.writes_ensureBackend`: what is written and reported for a backend.
* `Client.applies_difference_iff_isPlain`: the pass applies the difference just if the servers that
  are there have plain names.
-/
namespace ProxySync
open DataPlane SessionM DataPlane.Client
open Simulation (Log Plane)

/-! ## The requests that belong to a report -/

/-- A configuration request inside the transaction of that id. -/
def DataPlane.Request.inside (id : String) (method : Method) (segments : List String)
    (body : Option Json) : Request :=
  scopedRequest method segments body ("transaction_id", id)

/-- The request that belongs to a change of the section. -/
def Change.definitionRequests (id : String) (b : Wire.Backend) : Change → List Request
  | .created => [.inside id .post ["backends"] (some b.stamped.toJson)]
  | .updated => [.inside id .put ["backends", b.name] (some b.stamped.toJson)]
  | _ => []

/-- The request that belongs to a change of the check list. -/
def Change.checksRequests (id name : String) (wanted : List Wire.HttpCheck) :
    Change → List Request
  | .updated =>
    [.inside id .put ["backends", name, "http_checks"] (some (.arr (wanted.map (·.toJson))))]
  | _ => []

/-- The request that belongs to what becomes of a wanted server. -/
def Change.serverRequests (id name : String) (w : Wire.Server) : Change → List Request
  | .created => [.inside id .post ["backends", name, "servers"] (some w.toJson)]
  | .updated => [.inside id .put ["backends", name, "servers", w.name] (some w.toJson)]
  | _ => []

/-- What a report says of a wanted server. -/
def ServerReport.changeOf (r : ServerReport) (n : String) : Change :=
  if n ∈ r.created then .created else if n ∈ r.updated then .updated else .unchanged

/-- The requests that belong to a report, in the order in which they are made: one for each object
that is created, updated or deleted. -/
def SyncReport.requests (r : SyncReport) (id : String) (d : Resolved) : List Request :=
  r.backend.definitionRequests id d.wireBackend ++
    (r.httpChecks.checksRequests id d.name d.wireChecks ++
      ((d.wireServers.flatMap fun w => (r.servers.changeOf w.name).serverRequests id d.name w) ++
        r.servers.deleted.map fun n => .inside id .delete ["backends", d.name, "servers", n] none))

/-- The report of servers tells of everything that the other one tells of, but for some that it does
not tell of as deleted. -/
structure ServerReport.IsPartOf (r r' : ServerReport) : Prop where
  created : r.created = r'.created
  updated : r.updated = r'.updated
  deleted : r.deleted.Sublist r'.deleted

/-- The report tells of everything that the other one tells of, but for some servers that it does
not tell of as deleted. -/
structure SyncReport.IsPartOf (r r' : SyncReport) : Prop where
  backend : r.backend = r'.backend
  httpChecks : r.httpChecks = r'.httpChecks
  servers : r.servers.IsPartOf r'.servers

namespace DataPlane.Client
variable {α : Type} {c : Client} {t : Wire.Transaction} {s s' : Session} {sent : List Sent}
  {name : String}

/-! ## What is written, whatever is answered -/

/-- Begun inside the transaction, if the step ends well its value settles what it writes, and
whether any of that was accepted. -/
def Writing (t : Wire.Transaction) (x : SessionM α) (requests : α → List Request)
    (wrote : α → Bool) : Prop :=
  ∀ s sent a s', s.transaction = some t → Conduct x s sent (.ok a) s' →
    writes sent = requests a ∧ s' = s.marked (wrote a)

section
variable {requests : α → List Request} {wrote : α → Bool}

theorem writing_pure {a : α} (hrequests : requests a = []) (hwrote : wrote a = false) :
    Writing t (pure a) requests wrote := by
  intro s sent a' s' _ h
  obtain ⟨rfl, ha', rfl⟩ := conduct_pure.1 h
  cases ha'
  exact ⟨hrequests.symm, by rw [hwrote, s'.marked_false]⟩

theorem writing_fail {e : ClientError} : Writing t (SessionM.fail e) requests wrote := by
  intro s sent a s' _ h
  cases (conduct_fail.1 h).2.1

/-- A look writes nothing. -/
theorem Poses.writing_look {x : SessionM α} {segments : List String} {body : Option Json}
    {judge : Response → Except ClientError α} (hx : Poses c x .get segments body judge) :
    Writing t x (fun _ => []) fun _ => false := by
  intro s sent a s' hs h
  obtain ⟨reply, rfl, _, rfl⟩ := (hx.conduct_open hs).1 h
  exact ⟨rfl, by rw [Sent.changes_of_get rfl]⟩

/-- After a look what is written is what the rest writes. -/
theorem Writing.after_look {β : Type} {x : SessionM β} {f : β → SessionM α}
    (hx : Writing t x (fun _ => []) fun _ => false) (hf : ∀ b, Writing t (f b) requests wrote) :
    Writing t (x >>= f) requests wrote := by
  intro s sent a s' hs h
  obtain ⟨sent₁, sent₂, b, s₁, rfl, hlook, hrest⟩ | ⟨_, he, _⟩ := conduct_bind.1 h
  · obtain ⟨hnone, rfl⟩ := hx s sent₁ b s₁ hs hlook
    rw [s.marked_false] at hrest
    obtain ⟨hwrites, hs'⟩ := hf b s sent₂ a s' hs hrest
    exact ⟨by rw [writes_append, hnone, hwrites, List.nil_append], hs'⟩
  · cases he

/-- A write stands for the value that it is followed by. -/
theorem writing_write {method : Method} {segments : List String} {body : Json}
    {operation resource word : String} {a : α} (hm : method = .post ∨ method = .put)
    (hrequests : requests a = [.inside t.id method segments (some body)])
    (hwrote : wrote a = true) :
    Writing t (c.write method segments body operation resource word >>= fun _ => pure a)
      requests wrote := by
  intro s sent a' s' hs h
  obtain ⟨sent₁, _, _, s₁, rfl, hwrite, hdone⟩ | ⟨_, he, _⟩ := conduct_bind.1 h
  · obtain ⟨rfl, ha', rfl⟩ := conduct_pure.1 hdone
    obtain ⟨reply, rfl, hr, rfl⟩ := ((poses_write hm).conduct_open hs).1 hwrite
    have haccepted : reply.isAccepted = true := by
      rw [← isOk_written, ← hr]
      rfl
    have hchanges : Reply.accepts method reply = true := by
      cases reply with
      | lost cause => cases haccepted
      | answered status body => rcases hm with rfl | rfl <;> exact haccepted
    cases ha'
    rw [List.append_nil, hrequests, hwrote]
    refine ⟨?_, congrArg s.marked hchanges⟩
    rcases hm with rfl | rfl <;> rfl
  · cases he

end

theorem writing_ensureDefinition (b : Wire.Backend) :
    Writing t (c.ensureDefinition b) (·.definitionRequests t.id b) (·.isWrite) := by
  refine poses_find?.writing_look.after_look fun current => ?_
  cases current with
  | none => exact writing_write (.inl rfl) rfl rfl
  | some current =>
    show Writing t (if _ then _ else if _ then _ else _) _ _
    split
    · exact writing_fail
    · split
      · exact writing_write (.inr rfl) rfl rfl
      · exact writing_pure rfl rfl

theorem writing_ensureHttpChecks (name : String) (wanted : List Wire.HttpCheck) :
    Writing t (c.ensureHttpChecks name wanted) (·.checksRequests t.id name wanted)
      (·.isWrite) := by
  have hlook : Writing t (c.getHttpChecks name) (fun _ => []) fun _ => false :=
    poses_find?.writing_look.after_look fun _ => writing_pure rfl rfl
  refine hlook.after_look fun current => ?_
  show Writing t (if _ then _ else _) _ _
  split
  · exact writing_pure rfl rfl
  · exact writing_write (.inr rfl) rfl rfl

theorem writing_ensureServer (name : String) (w : Wire.Server) :
    Writing t (c.ensureServer name w) (·.serverRequests t.id name w) (·.isWrite) := by
  refine poses_find?.writing_look.after_look fun current => ?_
  cases current with
  | none => exact writing_write (.inl rfl) rfl rfl
  | some current =>
    show Writing t (if _ then _ else _) _ _
    split
    · exact writing_write (.inr rfl) rfl rfl
    · exact writing_pure rfl rfl

theorem changeOf_note_of_ne {r : ServerReport} {change : Change} {m n : String} (h : n ≠ m) :
    (r.note m change).changeOf n = r.changeOf n := by
  have hcreated : n ∈ (r.note m change).created ↔ n ∈ r.created := by
    cases change <;> simp [ServerReport.note, h]
  have hupdated : n ∈ (r.note m change).updated ↔ n ∈ r.updated := by
    cases change <;> simp [ServerReport.note, h]
  simp only [ServerReport.changeOf, hcreated, hupdated]

theorem serverRequests_note {r : ServerReport} {change : Change} {id name : String}
    {w : Wire.Server} (h : r.changeOf w.name = .unchanged) :
    ((r.note w.name change).changeOf w.name).serverRequests id name w =
      change.serverRequests id name w := by
  have hnone : w.name ∉ r.created ∧ w.name ∉ r.updated := by
    rw [ServerReport.changeOf] at h
    split at h
    · cases h
    · split at h
      · cases h
      · exact ⟨by assumption, by assumption⟩
  cases change <;>
    simp [ServerReport.note, ServerReport.changeOf, Change.serverRequests, hnone.1, hnone.2]

/-- Each wanted server is written as it is noted, in the order in which they are wanted. -/
theorem writes_ensureServers {ws : List Wire.Server} {report report' : ServerReport}
    (hwanted : (ws.map (·.name)).Nodup) (hnew : ∀ w ∈ ws, report.changeOf w.name = .unchanged)
    (hs : s.transaction = some t)
    (h : Conduct (c.ensureServers name report ws) s sent (.ok report') s') :
    (writes sent = ws.flatMap fun w => (report'.changeOf w.name).serverRequests t.id name w) ∧
      (∃ wrote, s' = s.marked wrote ∧ report'.hasChanges = (report.hasChanges || wrote)) ∧
      ∀ n, n ∉ ws.map (·.name) → report'.changeOf n = report.changeOf n := by
  induction ws generalizing s sent report with
  | nil =>
    obtain ⟨rfl, hreport, rfl⟩ := conduct_pure.1 h
    cases hreport
    exact ⟨rfl, ⟨false, s'.marked_false.symm, (Bool.or_false _).symm⟩, fun _ _ => rfl⟩
  | cons w ws ih =>
    obtain ⟨hw, hwanted⟩ := List.nodup_cons.1 hwanted
    obtain ⟨hneww, hnew⟩ := List.forall_mem_cons.1 hnew
    obtain ⟨sent₁, sent₂, change, s₁, rfl, hensure, hrest⟩ | ⟨_, he, _⟩ := conduct_bind.1 h
    · obtain ⟨hwrites₁, rfl⟩ := writing_ensureServer name w s sent₁ change s₁ hs hensure
      have hnew₁ : ∀ w' ∈ ws, (report.note w.name change).changeOf w'.name = .unchanged := by
        intro w' hw'
        have hne : w'.name ≠ w.name := fun heq => hw (List.mem_map.2 ⟨w', hw', heq⟩)
        rw [changeOf_note_of_ne hne, hnew w' hw']
      have hs₁ : (s.marked change.isWrite).transaction = some t := hs
      obtain ⟨hwrites₂, ⟨wrote, rfl, hchanges⟩, hothers⟩ := ih hwanted hnew₁ hs₁ hrest
      refine ⟨?_, ⟨change.isWrite || wrote, s.marked_marked .., ?_⟩, fun n hn => ?_⟩
      · -- The others do not touch what was noted of the first.
        rw [writes_append, hwrites₁, hwrites₂, List.flatMap_cons, hothers w.name hw,
          serverRequests_note hneww]
      · rw [hchanges, hasChanges_note, Bool.or_assoc]
      · rw [List.map_cons, List.mem_cons, not_or] at hn
        rw [hothers n hn.2, changeOf_note_of_ne hn.1]
    · cases he

/-- A deletion is asked for whatever comes of it. -/
theorem writing_delete {segments : List String} {operation resource : String} :
    Writing t (c.delete segments operation resource)
      (fun _ => [.inside t.id .delete segments none]) (·.isWrite) := by
  intro s sent change s' hs h
  obtain ⟨reply, rfl, hr, rfl⟩ := (poses_delete.conduct_open hs).1 h
  refine ⟨rfl, congrArg s.marked ?_⟩
  show reply.accepts .delete = change.isWrite
  rw [of_deleted hr, removal]
  cases reply.accepts .delete <;> rfl

/-- Servers are deleted one by one. Those are noted of which a deletion was accepted. -/
theorem writes_deleteServers {names : List String} {report report' : ServerReport}
    (hs : s.transaction = some t)
    (h : Conduct (c.deleteServers name report names) s sent (.ok report') s') :
    (writes sent = names.map fun n =>
        .inside t.id .delete ["backends", name, "servers", n] none) ∧
      ∃ gone : List String, gone.Sublist names ∧
        report' = { report with deleted := report.deleted ++ gone } ∧
        s' = s.marked (!gone.isEmpty) := by
  induction names generalizing s sent report with
  | nil =>
    obtain ⟨rfl, hreport, rfl⟩ := conduct_pure.1 h
    cases hreport
    exact ⟨rfl, [], .slnil, by rw [List.append_nil], s'.marked_false.symm⟩
  | cons n names ih =>
    obtain ⟨sent₁, sent₂, change, s₁, rfl, hdelete, hrest⟩ | ⟨_, he, _⟩ := conduct_bind.1 h
    · obtain ⟨hwrites₁, rfl⟩ := writing_delete s sent₁ change s₁ hs hdelete
      obtain ⟨reply, _, hr, _⟩ := (poses_delete.conduct_open hs).1 hdelete
      have hchange : change = .deleted ∨ change = .unchanged := by
        rw [of_deleted hr, removal]
        split <;> simp
      have hs₁ : (s.marked change.isWrite).transaction = some t := hs
      obtain ⟨hwrites₂, gone, hgone, rfl, rfl⟩ := ih hs₁ hrest
      refine ⟨by rw [writes_append, hwrites₁, hwrites₂]; rfl, ?_⟩
      obtain rfl | rfl := hchange
      · exact ⟨n :: gone, hgone.cons_cons n, by simp [ServerReport.note], s.marked_marked ..⟩
      · exact ⟨gone, hgone.cons n, rfl, s.marked_marked ..⟩
    · cases he

/-! ## What is reported and written for a backend -/

section
variable {cfg : Configuration} {m m' : Memory} {d : Resolved} {x : Remote}

/-- What is written for the servers is what sets them apart. The report tells of all of it but of
deletions that were not accepted. -/
theorem writes_syncServers (hc : c.AtRoot) (hname : Net.IsPlain name)
    {wanted ss : List Wire.Server} (hplain : ∀ w ∈ wanted, Net.IsPlain w.name)
    (hwanted : (wanted.map (·.name)).Nodup) (hss : cfg.Serves name ss)
    (hdistinct : (ss.map (·.name)).Nodup) {report : ServerReport} (hs : s.transaction = some t)
    (hcfg : m.staged.get? t.id = some cfg)
    (h : Makes c (c.syncServers name wanted) s m sent (.ok report) s' m') :
    (writes sent =
      (wanted.flatMap fun w =>
        ((Wire.serverDifference ss wanted).changeOf w.name).serverRequests t.id name w) ++
      (Wire.serverDifference ss wanted).deleted.map fun n =>
        .inside t.id .delete ["backends", name, "servers", n] none) ∧
      report.IsPartOf (Wire.serverDifference ss wanted) ∧ s' = s.marked report.hasChanges := by
  obtain ⟨sent₁, sent₂, sent₃, s₁, cfg₁, rfl, hensure, hlist, hdelete, hs₁, _⟩ :=
    of_syncServers hc hname hplain hss hdistinct hs hcfg h
  obtain ⟨hwrites₁, ⟨wrote, rfl, hchanges⟩, _⟩ :=
    writes_ensureServers hwanted (fun _ _ => rfl) hs hensure.conduct
  obtain ⟨hwrites₂, _⟩ := poses_list.writing_look _ sent₂ _ _ hs₁ hlist.conduct
  obtain ⟨hwrites₃, gone, hgone, rfl, rfl⟩ := writes_deleteServers hs₁ hdelete.conduct
  have hnoted := noted_eq .empty hdistinct hwanted
  have hnoneDeleted : (Wire.noted ss .empty wanted).deleted = [] := by
    rw [hnoted]
    rfl
  have hchangeOf (n : String) : (Wire.noted ss .empty wanted).changeOf n =
      (Wire.serverDifference ss wanted).changeOf n := by
    rw [hnoted]
    rfl
  simp only [hchangeOf] at hwrites₁
  refine ⟨by rw [writes_append, writes_append, hwrites₁, hwrites₂, hwrites₃]; rfl, ?_, ?_⟩
  · exact ⟨by rw [hnoted]; rfl, by rw [hnoted]; rfl, by rw [hnoneDeleted]; exact hgone⟩
  · have hempty : ServerReport.empty.hasChanges = false := rfl
    rw [hempty, Bool.false_or] at hchanges
    rw [s.marked_marked, ← hchanges]
    simp [ServerReport.hasChanges, hnoneDeleted]

/-- What is written for a backend is what sets it apart, and the report tells of all of it but of
deletions that were not accepted. -/
theorem writes_ensureBackend (hc : c.AtRoot) (hd : d.IsPlain) (hx : x.IsAt d.name cfg)
    {report : SyncReport} (hs : s.transaction = some t) (hcfg : m.staged.get? t.id = some cfg)
    (h : Makes c (c.ensureBackend d) s m sent (.ok report) s' m') :
    writes sent = (x.difference d).requests t.id d ∧ report.IsPartOf (x.difference d) ∧
      s' = s.marked report.hasChanges := by
  obtain ⟨sent₁, sent₂, sent₃, s₁, s₂, m₁, cfg₂, rfl, hdefinition, hchecks, hsync, hs₁, hs₂,
    hserves, hbackend, hhttpChecks⟩ := of_ensureBackend hc hd hx hs hcfg h
  obtain ⟨hwrites₁, rfl⟩ := writing_ensureDefinition _ _ _ _ _ hs hdefinition.conduct
  obtain ⟨hwrites₂, rfl⟩ := writing_ensureHttpChecks _ _ _ _ _ _ hs₁ hchecks.conduct
  obtain ⟨hwrites₃, hservers, rfl⟩ := writes_syncServers hc hd.name hd.servers hd.distinct hserves
    hx.distinct hs₂ Memory.get?_staging hsync
  refine ⟨?_, ⟨hbackend, hhttpChecks, hservers⟩, ?_⟩
  · rw [writes_append, writes_append, hwrites₁, hwrites₂, hwrites₃, hbackend, hhttpChecks]
    rfl
  · rw [Session.marked_marked, Session.marked_marked, SyncReport.hasChanges, Bool.or_assoc]

end

/-! ## Differences that are empty -/

theorem changeOf_eq_unchanged {r : ServerReport} {n : String} :
    r.changeOf n = .unchanged ↔ n ∉ r.created ∧ n ∉ r.updated := by
  rw [ServerReport.changeOf]
  split
  · simp_all
  · split <;> simp_all

/-- Servers are not apart just if nothing is said of any that is wanted, and none is deleted. -/
theorem hasChanges_serverDifference (ss wanted : List Wire.Server) :
    (Wire.serverDifference ss wanted).hasChanges = false ↔
      (∀ w ∈ wanted, (Wire.serverDifference ss wanted).changeOf w.name = .unchanged) ∧
        (Wire.serverDifference ss wanted).deleted = [] := by
  have hcreated : ∀ n ∈ (Wire.serverDifference ss wanted).created, n ∈ wanted.map (·.name) :=
    fun n hn => (List.mem_filter.1 hn).1
  have hupdated : ∀ n ∈ (Wire.serverDifference ss wanted).updated, n ∈ wanted.map (·.name) := by
    intro n hn
    obtain ⟨w, hw, rfl⟩ := List.mem_map.1 hn
    exact List.mem_map_of_mem (List.mem_filter.1 hw).1
  generalize Wire.serverDifference ss wanted = r at hcreated hupdated
  have hwanted : (∀ w ∈ wanted, r.changeOf w.name = .unchanged) ↔
      r.created = [] ∧ r.updated = [] := by
    simp only [changeOf_eq_unchanged]
    constructor
    · intro h
      refine ⟨List.eq_nil_iff_forall_not_mem.2 fun n hn => ?_,
        List.eq_nil_iff_forall_not_mem.2 fun n hn => ?_⟩
      · obtain ⟨w, hw, rfl⟩ := List.mem_map.1 (hcreated n hn)
        exact (h w hw).1 hn
      · obtain ⟨w, hw, rfl⟩ := List.mem_map.1 (hupdated n hn)
        exact (h w hw).2 hn
    · rintro ⟨hc, hu⟩ w _
      simp [hc, hu]
  rw [hwanted, ServerReport.hasChanges]
  simp [and_assoc]

theorem serverRequests_eq_nil {r : ServerReport} {id name : String} {w : Wire.Server} :
    (r.changeOf w.name).serverRequests id name w = [] ↔ r.changeOf w.name = .unchanged := by
  rw [ServerReport.changeOf]
  split
  · simp [Change.serverRequests]
  · split <;> simp [Change.serverRequests]

/-- A difference tells of changes just if requests belong to it. -/
theorem hasChanges_difference (x : Remote) (d : Resolved) (id : String) :
    (x.difference d).hasChanges = !((x.difference d).requests id d).isEmpty := by
  have hbackend : (x.difference d).backend.isWrite = false ↔
      (x.difference d).backend.definitionRequests id d.wireBackend = [] := by
    rw [Remote.difference]
    cases x.definition with
    | none => simp [Change.isWrite, Change.definitionRequests]
    | some b =>
      dsimp only
      split <;> simp [Change.isWrite, Change.definitionRequests]
  have hchecks : (x.difference d).httpChecks.isWrite = false ↔
      (x.difference d).httpChecks.checksRequests id d.name d.wireChecks = [] := by
    rw [Remote.difference]
    dsimp only
    split <;> simp [Change.isWrite, Change.checksRequests]
  have hservers : (x.difference d).servers.hasChanges = false ↔
      (∀ w ∈ d.wireServers, ((x.difference d).servers.changeOf w.name).serverRequests id d.name w =
        []) ∧ (x.difference d).servers.deleted = [] := by
    simp only [serverRequests_eq_nil]
    exact hasChanges_serverDifference x.servers d.wireServers
  have hnone : (x.difference d).hasChanges = false ↔ (x.difference d).requests id d = [] := by
    rw [SyncReport.hasChanges, Bool.or_eq_false_iff, Bool.or_eq_false_iff, hbackend, hchecks,
      hservers, SyncReport.requests]
    simp only [List.append_eq_nil_iff, List.flatMap_eq_nil_iff, List.map_eq_nil_iff, and_assoc]
  rw [Bool.eq_iff_iff, ← Bool.not_eq_false, hnone]
  simp

/-! ## What the requests are about -/

section
variable {d : Resolved} {r : SyncReport} {id : String}

/-- If the servers that a report tells of as deleted have plain names, all requests that belong to
the report are about places with plain names. -/
theorem isPlain_of_mem_requests (hd : d.IsPlain)
    (hdeleted : ∀ n ∈ r.servers.deleted, Net.IsPlain n) {q : Request} (hq : q ∈ r.requests id d) :
    ∀ n ∈ q.endpoint.segments, Net.IsPlain n := by
  have hservers (n : String) (hn : Net.IsPlain n) :
      ∀ k ∈ ["backends", d.name, "servers", n], Net.IsPlain k :=
    isPlain_backends hd.name
      (List.forall_mem_cons.2 ⟨by decide, List.forall_mem_singleton.2 hn⟩)
  rw [SyncReport.requests, List.mem_append, List.mem_append, List.mem_append, List.mem_flatMap,
    List.mem_map] at hq
  obtain hq | hq | ⟨w, hw, hq⟩ | ⟨n, hn, rfl⟩ := hq
  · cases hchange : r.backend <;> rw [hchange] at hq
    case created =>
      obtain rfl := List.mem_singleton.1 hq
      exact List.forall_mem_singleton.2 (by decide)
    case updated =>
      obtain rfl := List.mem_singleton.1 hq
      exact isPlain_backends hd.name nofun
    all_goals cases hq
  · cases hchange : r.httpChecks <;> rw [hchange] at hq
    case updated =>
      obtain rfl := List.mem_singleton.1 hq
      exact isPlain_backends hd.name (by decide)
    all_goals cases hq
  · cases hchange : r.servers.changeOf w.name <;> rw [hchange] at hq
    case created =>
      obtain rfl := List.mem_singleton.1 hq
      exact isPlain_backends hd.name (by decide)
    case updated =>
      obtain rfl := List.mem_singleton.1 hq
      exact hservers w.name (hd.servers w hw)
    all_goals cases hq
  · exact hservers n (hdeleted n hn)

/-- Such requests are addressed to the objects that they are about. -/
theorem addresses_of_mem_requests (hc : c.HasPath) (hd : d.IsPlain)
    (hdeleted : ∀ n ∈ r.servers.deleted, Net.IsPlain n) {q : Request} (hq : q ∈ r.requests id d)
    {o : Addressee} (ho : q.IsAbout o) : c.Addresses q o := by
  refine hc.addresses_of_isPlain (Addressee.isPlain_of_names ?_) ho
  rw [← ho.2]
  exact isPlain_of_mem_requests hd hdeleted hq

end

/-! ## Passes -/

/-- What is there for a backend with two servers. -/
def shopRemote : Remote where
  definition := some shop.wireBackend.stamped
  checks := []
  servers := [{ stale "a" with address := "10.0.0.2" }, stale "b"]

/-- What is there for a backend with a server whose name has a tab in it. -/
def tabbedRemote : Remote where
  definition := some shop.wireBackend.stamped
  checks := []
  servers := [stale "x\ty"]

/-- Run alone on the memory, as a session of its own, the pass reports exactly what sets the backend
apart. Besides reading it opens a transaction, makes one request in it for each object that the
report tells of, addressed to that object, and commits it; or it discards it if there is nothing to
tell of. -/
structure AppliesDifference (c : Client) (d : Resolved) (x : Remote) (m : Memory) (log : Log) :
    Prop where
  reported : (((c.apply d).start .fresh).run (Plane.answer c) (.holding m, log)).1.1 =
    .ok (x.difference d)
  written : writes (Sent.ofTrace
      (((c.apply d).start .fresh).trace (Plane.answer c) (.holding m, log))) =
    openRequest (Int64.ofInt m.version) :: (x.difference d).requests m.nextId d ++
      [if (x.difference d).requests m.nextId d = [] then discardRequest (nextTransaction m)
        else c.commitRequest (nextTransaction m)]
  addressed : ∀ q ∈ (x.difference d).requests m.nextId d, ∀ o, q.IsAbout o → c.Addresses q o
  left : ∃ cfg, (((c.apply d).start .fresh).run (Plane.answer c) (.holding m, log)).2.1 =
    .holding (afterPass m (x.difference d).hasChanges cfg)

section
variable {d : Resolved} {x : Remote} {m m' : Memory} (hc : c.AtRoot) (hd : d.IsPlain)
  (hm : m.HasRoom) (hx : x.IsAt d.name m.committed)
include hc hd hm hx

/-- A pass that ends well writes what sets the backend apart, and its report tells of all of it but
of deletions that were not accepted. What it tells of makes it commit. -/
theorem writes_apply {report : SyncReport}
    (h : Makes c (c.apply d) .fresh m sent (.ok report) s' m') :
    report.IsPartOf (x.difference d) ∧
      writes sent = openRequest (Int64.ofInt m.version) :: (x.difference d).requests m.nextId d ++
        [if report.hasChanges then c.commitRequest (nextTransaction m)
          else discardRequest (nextTransaction m)] := by
  obtain ⟨sent₁, s₁, m₁, hensure, hwrites⟩ := makes_of_apply hc hm h
  have hcopy : m.opening.staged.get? (nextTransaction m).id = some m.committed :=
    Memory.get?_opening rfl
  obtain ⟨hsteps, hpart, rfl⟩ := writes_ensureBackend hc hd hx rfl hcopy hensure
  refine ⟨hpart, ?_⟩
  rw [hwrites, hsteps]
  rfl

/-- If the servers that are there have plain names a pass reports and writes exactly what sets the
backend apart. -/
theorem appliesDifference_of_isPlain (hstored : ∀ s ∈ x.servers, Net.IsPlain s.name) (log : Log) :
    AppliesDifference c d x m log := by
  obtain ⟨report, cfg, hwork, hreport, _⟩ :=
    works_ensureBackend (t := nextTransaction m) hc hd hx hstored
  subst hreport
  have hcopy : m.opening.staged.get? m.nextId = some m.committed :=
    Memory.get?_opening (t := nextTransaction m) rfl
  obtain ⟨sent₁, hensure⟩ := (hwork (.begun (nextTransaction m)) _ rfl hcopy).makes
  obtain ⟨sent₂, hpass, _⟩ := makes_pass hc hm id hensure
  have hmakes : Makes c (c.apply d) .fresh m sent₂ (.ok (x.difference d)) .fresh
      (afterPass m (x.difference d).hasChanges cfg) := hpass
  obtain ⟨log', hrun, htrace⟩ := hmakes.trace_run log
  refine ⟨by rw [hrun], ?_, fun q hq o ho => ?_, cfg, by rw [hrun]⟩
  · obtain ⟨_, hwrites⟩ := writes_apply hc hd hm hx hmakes
    rw [htrace, hwrites, hasChanges_difference x d m.nextId]
    cases (x.difference d).requests m.nextId d <;> rfl
  · refine addresses_of_mem_requests hc.hasPath hd (fun n hn => ?_) hq ho
    obtain ⟨s, hs, rfl⟩ := List.mem_map.1 (List.mem_filter.1 hn).1
    exact hstored s hs

omit hm hx in
/-- If all that sets a backend apart can be addressed, the servers that are there have plain
names. -/
theorem isPlain_of_addressed {id : String}
    (h : ∀ q ∈ (x.difference d).requests id d, ∀ o, q.IsAbout o → c.Addresses q o) :
    ∀ s ∈ x.servers, Net.IsPlain s.name := by
  intro s hs
  by_contra hno
  -- What cannot be named is not wanted, and a deletion belongs to it.
  have hdeleted : s.name ∈ (x.difference d).servers.deleted :=
    List.mem_filter.2 ⟨List.mem_map_of_mem hs, by simpa using hd.not_wanted hno⟩
  have hmem : Request.inside id .delete ["backends", d.name, "servers", s.name] none ∈
      (x.difference d).requests id d := by
    simp only [SyncReport.requests, List.mem_append, List.mem_map]
    exact .inr (.inr (.inr ⟨_, hdeleted, rfl⟩))
  exact hno ((hc.hasPath.addresses_self_iff hd.name ⟨rfl, rfl⟩).1 (h _ hmem _ ⟨rfl, rfl⟩))

/-- In a configuration that may be brought in line, a pass that ends well writes exactly what sets
the backend apart, and reports it but for deletions that were not accepted. It reports all of it,
and addresses what it writes to the objects that it reports, just if the servers that are there have
plain names. -/
theorem applies_difference_iff_isPlain (log : Log) :
    (∀ report,
      (((c.apply d).start .fresh).run (Plane.answer c) (.holding m, log)).1.1 = .ok report →
      report.IsPartOf (x.difference d) ∧
      writes (Sent.ofTrace
          (((c.apply d).start .fresh).trace (Plane.answer c) (.holding m, log))) =
        openRequest (Int64.ofInt m.version) :: (x.difference d).requests m.nextId d ++
          [if report.hasChanges then c.commitRequest (nextTransaction m)
            else discardRequest (nextTransaction m)]) ∧
      (AppliesDifference c d x m log ↔ ∀ s ∈ x.servers, Net.IsPlain s.name) := by
  refine ⟨fun report hreport => ?_, fun h => isPlain_of_addressed hc hd h.addressed,
    fun hstored => appliesDifference_of_isPlain hc hd hm hx hstored log⟩
  obtain ⟨_, _, _, hmakes⟩ := Makes.of_run c (c.apply d) .fresh m log
  rw [hreport] at hmakes
  exact writes_apply hc hd hm hx hmakes

end

/-- A case of it: one server that is there has another address, another one is not wanted. -/
theorem applies_difference_moved_server :
    (shopRemote.difference shop).servers = { created := [], updated := ["a"], deleted := ["b"] } ∧
    writes (Sent.ofTrace
        ((((onThisHost 5555 "admin" "secret").apply shop).start .fresh).trace
          (Plane.answer (onThisHost 5555 "admin" "secret"))
          (.holding (.ofConfiguration 1 (serving shop.wireBackend shopRemote.servers)), []))) =
      [openRequest 1,
        .inside "tx-1" .put ["backends", "shop", "servers", "a"]
          (some (shop.wireServers.head (by decide)).toJson),
        .inside "tx-1" .delete ["backends", "shop", "servers", "b"] none,
        commitRequest (onThisHost 5555 "admin" "secret")
          { id := "tx-1", version := 1, status := "in_progress" }] := by
  have hroom : (Memory.ofConfiguration 1 (serving shop.wireBackend shopRemote.servers)).HasRoom :=
    ⟨by decide, by decide⟩
  have hplain : ∀ s ∈ shopRemote.servers, Net.IsPlain s.name := by decide
  have hat : shopRemote.IsAt shop.name (serving shop.wireBackend shopRemote.servers) :=
    isAt_serving shop.wireBackend (by decide)
  have happlies := (applies_difference_iff_isPlain (atRoot_onThisHost 5555 "admin" "secret")
    isPlain_shop hroom hat []).2.2 hplain
  exact ⟨by decide, happlies.written⟩

/-- A server with such a name is asked to be deleted under another one. The pass ends well and does
not report it, although everything can be read and all names are distinct. -/
theorem not_applies_difference_tab :
    (onThisHost 5555 "admin" "secret").AtRoot ∧ shop.IsPlain ∧
    (Memory.ofConfiguration 1 (serving shop.wireBackend tabbedRemote.servers)).HasRoom ∧
    tabbedRemote.IsAt shop.name (serving shop.wireBackend tabbedRemote.servers) ∧
    (tabbedRemote.difference shop).servers.deleted = ["x\ty"] ∧
    ((((onThisHost 5555 "admin" "secret").apply shop).start .fresh).run
      (Plane.answer (onThisHost 5555 "admin" "secret"))
      (.holding (.ofConfiguration 1 (serving shop.wireBackend tabbedRemote.servers)), [])).1.1 =
        .ok { tabbedRemote.difference shop with
              servers := { created := ["a"], updated := [], deleted := [] } } ∧
    ¬ AppliesDifference (onThisHost 5555 "admin" "secret") shop tabbedRemote
      (.ofConfiguration 1 (serving shop.wireBackend tabbedRemote.servers)) [] := by
  have hrun : ((((onThisHost 5555 "admin" "secret").apply shop).start .fresh).run
      (Plane.answer (onThisHost 5555 "admin" "secret"))
      (.holding (.ofConfiguration 1 (serving shop.wireBackend tabbedRemote.servers)), [])).1.1 =
        .ok { tabbedRemote.difference shop with
              servers := { created := ["a"], updated := [], deleted := [] } } := by
    decide +kernel
  refine ⟨atRoot_onThisHost 5555 "admin" "secret", isPlain_shop, ⟨by decide, by decide⟩,
    isAt_serving shop.wireBackend (by decide), by decide, hrun, fun happlies => ?_⟩
  have hdeleted := congrArg (·.toOption.map (·.servers.deleted)) (hrun.symm.trans happlies.reported)
  exact absurd hdeleted (by decide)

end DataPlane.Client
end ProxySync
