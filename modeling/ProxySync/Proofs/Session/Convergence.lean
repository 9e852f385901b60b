import ProxySync.Proofs.Session.Objects
import ProxySync.Proofs.Session.Questions
/-!
# Convergence

A pass brings a backend in line with what is wanted, whatever the Data Plane held for it before, as
long as the section is absent or belongs to this program and can be read. The one exception are
servers whose names are no path segments: they cannot be deleted by name, and then the pass either
fails, or leaves them, or removes more than it should.

## Main definitions

* `Manageable`: what a configuration has to hold for a backend that is to be brought in line.
* `Settled`: a configuration that holds what is wanted for a backend.
* `Converged`: a pass that ended well, did so for a reason, and committed what is wanted.

## Main statements

* `Client.converges_iff_isPlain`: a pass converges just if the servers that are there have plain
  names.
-/
namespace ProxySync
open DataPlane SessionM
open Simulation (Log Plane)

/-- What is wanted has plain names, which tell the servers apart. -/
structure Resolved.IsPlain (d : Resolved) : Prop where
  name : Net.IsPlain d.name
  servers : ∀ w ∈ d.wireServers, Net.IsPlain w.name
  distinct : (d.wireServers.map (·.name)).Nodup

/-- What cannot be named is not wanted. -/
theorem Resolved.IsPlain.not_wanted {d : Resolved} (hd : d.IsPlain) {name : String}
    (hname : ¬ Net.IsPlain name) : name ∉ d.wireServers.map (·.name) := by
  intro hmem
  obtain ⟨w, hw, rfl⟩ := List.mem_map.1 hmem
  exact hname (hd.servers w hw)

/-- There is room for a transaction, and the version is one of 64 bits. -/
structure DataPlane.Memory.HasRoom (m : Memory) : Prop where
  room : m.staged.size < m.maxTransactions
  version : -0x8000000000000000 ≤ m.version ∧ m.version < 0x8000000000000000

/-- What a configuration holds for a backend that may be brought in line: no section, or one of this
program with these servers. What is there can be read; a check list that is not there is empty. -/
structure Manageable (name : String) (cfg : Configuration) (stored : List Wire.Server) : Prop where
  definition : (cfg.backends.get? name = none ∧ stored = []) ∨
    ∃ b, cfg.Defines name b ∧ b.isManaged = true ∧ cfg.Serves name stored
  checks : ∃ cs, cfg.Checks name cs
  distinct : (stored.map (·.name)).Nodup

/-- What is told of a backend: its section, if there is one, its check list and its servers. -/
structure Remote where
  definition : Option Wire.Backend
  checks : List Wire.HttpCheck
  servers : List Wire.Server

namespace Remote

/-- The configuration holds this for the backend, which may be brought in line. -/
structure IsAt (x : Remote) (name : String) (cfg : Configuration) : Prop where
  definition : match x.definition with
    | none => cfg.backends.get? name = none ∧ x.servers = []
    | some b => cfg.Defines name b ∧ b.isManaged = true ∧ cfg.Serves name x.servers
  checks : cfg.Checks name x.checks
  distinct : (x.servers.map (·.name)).Nodup

/-- What sets a backend apart from what is wanted: the section is created or updated, the check list
is updated, and the servers are those that set it apart. -/
def difference (x : Remote) (d : Resolved) : SyncReport where
  backend := match x.definition with
    | none => .created
    | some b => if b.same d.wireBackend.stamped then .unchanged else .updated
  httpChecks := if Wire.HttpCheck.sameList x.checks d.wireChecks then .unchanged else .updated
  servers := Wire.serverDifference x.servers d.wireServers

end Remote

theorem Manageable.remote {name : String} {cfg : Configuration} {stored : List Wire.Server}
    (h : Manageable name cfg stored) : ∃ x : Remote, x.servers = stored ∧ x.IsAt name cfg := by
  obtain ⟨cs, hcs⟩ := h.checks
  obtain ⟨habsent, rfl⟩ | ⟨b, hb⟩ := h.definition
  · exact ⟨⟨none, cs, []⟩, rfl, ⟨habsent, rfl⟩, hcs, h.distinct⟩
  · exact ⟨⟨some b, cs, stored⟩, rfl, hb, hcs, h.distinct⟩

/-- The configuration holds what is wanted for the backend. -/
structure Settled (d : Resolved) (cfg : Configuration) : Prop where
  definition : ∃ b, cfg.Defines d.name b ∧ b.same d.wireBackend.stamped = true
  checks : ∃ cs, cfg.Checks d.name cs ∧ Wire.HttpCheck.sameList cs d.wireChecks = true
  servers : ∃ ss, cfg.Serves d.name ss ∧ (ss.map (·.name)).Perm (d.wireServers.map (·.name)) ∧
    ∀ w ∈ d.wireServers, ∃ s ∈ ss, s.same w = true

/-- The pass ended well, the committed configuration is settled and changed at no other backend, it
has a new version just if the report tells of a change, and no transaction is left. -/
structure Converged (d : Resolved) (r : Except ClientError SyncReport) (before after : Memory) :
    Prop where
  reported : ∃ report, r = .ok report ∧
    Confined d.name report.hasChanges before.committed after.committed ∧
    after.version = if report.hasChanges then before.version + 1 else before.version
  settled : Settled d after.committed
  closed : after.staged = before.staged.erase before.nextId

namespace DataPlane.Client
variable {c : Client} {t : Wire.Transaction} {cfg cfg' : Configuration} {m m' : Memory}
  {d : Resolved} {x : Remote} {stored : List Wire.Server}

/-! ## Inside the transaction -/

/-- The definition is brought in line first, which leaves the check list and the servers. -/
theorem works_definition (hc : c.AtRoot) (hname : Net.IsPlain d.name) (hx : x.IsAt d.name cfg) :
    ∃ change cfg' b,
      Works c t (c.ensureDefinition d.wireBackend) cfg change change.isWrite cfg' ∧
      change = (x.difference d).backend ∧ cfg'.Defines d.name b ∧
      b.same d.wireBackend.stamped = true ∧ cfg'.Checks d.name x.checks ∧
      cfg'.Serves d.name x.servers ∧ Confined d.name change.isWrite cfg cfg' := by
  obtain ⟨definition, checks, servers⟩ := x
  cases definition with
  | none =>
    obtain ⟨habsent, rfl⟩ := hx.definition
    obtain ⟨cfg', hwork, hdefines, hserves, hchecks, hconf⟩ :=
      works_ensureDefinition_absent (t := t) (b := d.wireBackend) hc hname habsent
    have hcs' : cfg'.Checks d.name checks := by
      rw [Configuration.Checks, hchecks]
      exact hx.checks
    exact ⟨.created, cfg', _, hwork, rfl, hdefines, Wire.Backend.same_self _, hcs', hserves, hconf⟩
  | some b =>
    obtain ⟨hb, hmanaged, hstored⟩ := hx.definition
    obtain ⟨change, cfg', b', hwork, hchange, hdefines, hsame, hservers, hchecks, hconf⟩ :=
      works_ensureDefinition_managed (t := t) (b := d.wireBackend) hc hname hb hmanaged
    have hcs' : cfg'.Checks d.name checks := by
      rw [Configuration.Checks, hchecks]
      exact hx.checks
    have hserves : cfg'.Serves d.name servers := by
      rw [Configuration.Serves, hservers]
      exact hstored
    exact ⟨change, cfg', b', hwork, hchange, hdefines, hsame, hcs', hserves, hconf⟩

/-- A backend is brought in line if the servers that are there have plain names, by what set it
apart. -/
theorem works_ensureBackend (hc : c.AtRoot) (hd : d.IsPlain) (hx : x.IsAt d.name cfg)
    (hstored : ∀ s ∈ x.servers, Net.IsPlain s.name) :
    ∃ report cfg', Works c t (c.ensureBackend d) cfg report report.hasChanges cfg' ∧
      report = x.difference d ∧ Settled d cfg' ∧ Confined d.name report.hasChanges cfg cfg' := by
  obtain ⟨change₁, cfg₁, b, hwork₁, hchange₁, hb, hsame, hcs, hserves, hconf₁⟩ :=
    works_definition (t := t) hc hd.name hx
  have hthere : cfg₁.backends.contains d.name = true := by
    obtain ⟨j, hj, _⟩ := hb
    rw [Table.contains, hj]
    rfl
  obtain ⟨change₂, cfg₂, cs', hwork₂, hchange₂, hcs', hsame', hb₂, hs₂, hconf₂⟩ :=
    works_ensureHttpChecks (t := t) hc hd.name d.wireChecks hthere hcs
  have hserves₂ : cfg₂.Serves d.name x.servers := by
    rw [Configuration.Serves, hs₂]
    exact hserves
  obtain ⟨servers, cfg₃, ss, hwork₃, hservers, hss, hperm, hagree, hconf₃, hb₃, hh₃⟩ :=
    works_syncServers (t := t) hc hd.name hd.servers hd.distinct hserves₂ hx.distinct hstored
  let report : SyncReport := { backend := change₁, httpChecks := change₂, servers }
  have hchanges : report.hasChanges =
      (change₁.isWrite || (change₂.isWrite || servers.hasChanges)) := Bool.or_assoc ..
  have hwork : Works c t (c.ensureBackend d) cfg report
      (change₁.isWrite || (change₂.isWrite || (servers.hasChanges || false))) cfg₃ :=
    hwork₁.bind (hwork₂.bind (hwork₃.bind (.pure report cfg₃)))
  rw [Bool.or_false, ← hchanges] at hwork
  have hreport : report = x.difference d := by
    rw [Remote.difference, ← hchange₂, ← hservers]
    exact congrArg (SyncReport.mk · change₂ servers) hchange₁
  refine ⟨report, cfg₃, hwork, hreport, ⟨⟨b, ?_, hsame⟩, ⟨cs', ?_, hsame'⟩, ss, hss, hperm, hagree⟩,
    ?_⟩
  · rw [Configuration.Defines, hb₃, hb₂]
    exact hb
  · rw [Configuration.Checks, hh₃]
    exact hcs'
  · rw [hchanges]
    exact hconf₁.trans (hconf₂.trans hconf₃)

/-! ## Around the transaction -/

/-- The transaction that is opened next. -/
def nextTransaction (m : Memory) : Wire.Transaction :=
  { id := m.nextId, version := Int64.ofInt m.version, status := "in_progress" }

/-- What is made of an answer from memory. -/
theorem received_sent {α : Type} {e : Endpoint} {p : Answer × Memory}
    {judge : Response → Except ClientError α} :
    (c.received e (Memory.sent p).1).bind judge = judge ⟨p.1.status, p.1.bodyText⟩ := rfl

theorem versionIn_told {j : Json} {v : Int64} (h : version? j.sorted.print = some v) :
    versionIn ⟨200, (Answer.json 200 j).bodyText⟩ = .ok v := by
  have hbody : version? (Answer.json 200 j).bodyText = some v := h
  rw [versionIn, hbody]
  rfl

theorem grantedIn_told {j : Json} (h : told? Wire.Transaction.ofJson? j = some t) :
    c.grantedIn ⟨201, (Answer.json 201 j).bodyText⟩ = .ok t := by
  rw [grantedIn, if_neg (by simp)]
  exact readIn_told h

/-- A version that is told and a transaction that is granted on it open the session. -/
theorem runs_openTransaction_of {v : Int64}
    (hread : (c.received versionEndpoint (m.serve c versionRequest).1).bind versionIn = .ok v)
    (hgranted : (c.received (openRequest v).endpoint
      ((m.serve c versionRequest).2.serve c (openRequest v)).1).bind c.grantedIn = .ok t) :
    Runs c c.openTransaction .fresh m (.ok t) (.begun t)
      ((m.serve c versionRequest).2.serve c (openRequest v)).2 := by
  refine Runs.of_answered fun {sent r₀ s₀ m₀} h hanswered => ?_
  obtain ⟨reply₀, ⟨e, he, rfl, _⟩ | ⟨v', reply, hv, rfl, hr, hs⟩⟩ := conduct_openTransaction rfl h
  · obtain ⟨rfl, _⟩ := Answered.cons_iff.1 hanswered
    cases he.symm.trans hread
  · obtain ⟨rfl, hrest⟩ := Answered.cons_iff.1 hanswered
    obtain rfl : v' = v := Except.ok.inj (hv.symm.trans hread)
    obtain ⟨rfl, hdone⟩ := Answered.cons_iff.1 hrest
    obtain rfl : r₀ = .ok t := hr.trans hgranted
    cases hdone
    exact ⟨rfl, hs, rfl⟩

theorem received_version (hc : c.AtRoot) (hm : m.HasRoom) :
    (c.received versionEndpoint (m.serve c versionRequest).1).bind versionIn =
      .ok (Int64.ofInt m.version) := by
  rw [Memory.serve_versionRequest hc, received_sent]
  exact versionIn_told (version?_versionJson hm.version)

/-- Where there is room a transaction is opened on the current version. -/
theorem runs_openTransaction (hc : c.AtRoot) (hm : m.HasRoom) :
    Runs c c.openTransaction .fresh m (.ok (nextTransaction m)) (.begun (nextTransaction m))
      m.opening := by
  have hkeep : (m.serve c versionRequest).2 = m := by
    rw [Memory.serve_versionRequest hc, Memory.sent]
  have hopen : m.serve c (openRequest (Int64.ofInt m.version)) = Memory.sent
      (.json 201 (Memory.transactionJson m.nextId m.version "in_progress"), m.opening) := by
    have hv : (Int64.ofInt m.version).toInt = m.version :=
      Int64.toInt_ofInt_of_le hm.version.1 hm.version.2
    rw [Memory.serve_openRequest hc, if_neg (Nat.not_le.2 hm.room), if_neg (not_not.2 hv)]
  have hgranted : (c.received (openRequest (Int64.ofInt m.version)).endpoint
      (m.serve c (openRequest (Int64.ofInt m.version))).1).bind c.grantedIn =
      .ok (nextTransaction m) := by
    rw [hopen, received_sent]
    exact grantedIn_told (told?_transactionJson m.nextId hm.version "in_progress")
  have hruns := runs_openTransaction_of (received_version hc hm) (t := nextTransaction m)
  rw [hkeep] at hruns
  have hlast := hruns hgranted
  rwa [hopen, Memory.sent] at hlast

/-- A session in which something was written commits the copy when it is closed. -/
theorem runs_close_dirty (hc : c.AtRoot) (ht : Net.IsPlain t.id) {s : Session}
    (hs : s.transaction = some t) (hdirty : s.dirty = true)
    (hcfg : m.staged.get? t.id = some cfg) :
    ∃ closing, Runs c c.close s m (.ok closing) .fresh (m.committing t.id cfg) := by
  have hserve := Memory.serve_commitRequest (m := m) hc ht
  rw [hcfg] at hserve
  generalize Memory.transactionJson t.id (m.version + 1) "success" = j at hserve
  let body := (Answer.json 202 j).bodyText
  have hcommitted : committedIn t ⟨202, body⟩ = .ok (committed t body) := by
    simp [committedIn, Response.isSuccess, isSuccess]
  refine ⟨.committed (committed t body), Runs.of_answered fun {sent r₀ s₀ m₀} h hanswered => ?_⟩
  obtain ⟨reply, rfl, rfl, rfl⟩ := conduct_close_dirty hs hdirty h
  obtain ⟨rfl, hrest⟩ := Answered.cons_iff.1 hanswered
  rw [hserve] at hrest ⊢
  cases hrest
  exact ⟨congrArg (Except.map Closing.committed) hcommitted, rfl, rfl⟩

/-- A session in which nothing was written forgets the copy when it is closed. -/
theorem runs_close_clean (hc : c.AtRoot) (ht : Net.IsPlain t.id) {s : Session}
    (hs : s.transaction = some t) (hclean : s.dirty = false)
    (hcfg : m.staged.get? t.id = some cfg) :
    Runs c c.close s m (.ok .discarded) .fresh { m with staged := m.staged.erase t.id } := by
  have hserve := Memory.serve_discardRequest (m := m) hc ht
  rw [hcfg] at hserve
  refine Runs.of_answered fun {sent r₀ s₀ m₀} h hanswered => ?_
  obtain ⟨reply, rfl, rfl, rfl⟩ := conduct_close_clean hs hclean h
  obtain ⟨rfl, hrest⟩ := Answered.cons_iff.1 hanswered
  rw [hserve] at hrest ⊢
  cases hrest
  exact ⟨rfl, rfl, rfl⟩

/-- The memory after a pass that leaves the copy of its transaction so. -/
def afterPass (m : Memory) (changed : Bool) (cfg : Configuration) : Memory :=
  { m with
    version := if changed then m.version + 1 else m.version
    opened := m.opened + 1
    staged := m.staged.erase m.nextId
    committed := if changed then cfg else m.committed }

/-- Whatever its copy is, a transaction that is closed leaves the others open. -/
theorem erase_staging_opening :
    (m.opening.staging m.nextId cfg).staged.erase m.nextId = m.staged.erase m.nextId := by
  apply Table.ext
  intro k
  simp only [Memory.staging, Memory.opening, Table.get?_erase, Table.get?_insert]
  split <;> rfl

/-- The memory after a discard of that transaction. -/
theorem discarding_opening :
    { m.opening.staging m.nextId cfg with
      staged := (m.opening.staging m.nextId cfg).staged.erase (nextTransaction m).id } =
      afterPass m false cfg := by
  show Memory.mk _ _ _ _ ((m.opening.staging m.nextId cfg).staged.erase m.nextId) _ = _
  rw [erase_staging_opening]
  rfl

/-- What a transaction is closed with after steps that went well. -/
theorem runs_closing (hc : c.AtRoot) (m : Memory) (changed : Bool) (cfg : Configuration) :
    ∃ closing, Runs c c.close ((Session.begun (nextTransaction m)).marked changed)
      (m.opening.staging m.nextId cfg) (.ok closing) .fresh (afterPass m changed cfg) := by
  have hplain : Net.IsPlain (nextTransaction m).id := m.isPlain_nextId
  have hcfg : (m.opening.staging m.nextId cfg).staged.get? (nextTransaction m).id = some cfg :=
    Memory.get?_staging
  cases changed with
  | true =>
    obtain ⟨closing, hclose⟩ := runs_close_dirty hc hplain
      (s := (Session.begun (nextTransaction m)).marked true) rfl rfl hcfg
    refine ⟨closing, ?_⟩
    have hafter : (m.opening.staging m.nextId cfg).committing (nextTransaction m).id cfg =
        afterPass m true cfg := by
      show Memory.committing _ m.nextId cfg = _
      rw [Memory.committing, erase_staging_opening]
      rfl
    rwa [hafter] at hclose
  | false =>
    have hclose := runs_close_clean hc hplain
      (s := (Session.begun (nextTransaction m)).marked false) rfl rfl hcfg
    rw [discarding_opening] at hclose
    exact ⟨.discarded, hclose⟩

/-! ## Servers with plain names -/

/-- Where the servers that are there have plain names the pass ends well and commits what is
wanted. -/
theorem runs_apply (hc : c.AtRoot) (hd : d.IsPlain) (hm : m.HasRoom)
    (h : Manageable d.name m.committed stored) (hstored : ∀ s ∈ stored, Net.IsPlain s.name) :
    ∃ report m', Runs c (c.apply d) .fresh m (.ok report) .fresh m' ∧
      Converged d (.ok report) m m' := by
  obtain ⟨x, rfl, hx⟩ := h.remote
  obtain ⟨report, cfg, hwork, _, hsettled, hconf⟩ :=
    works_ensureBackend (t := nextTransaction m) hc hd hx hstored
  have hopen := runs_openTransaction hc hm
  have hcopy : m.opening.staged.get? m.nextId = some m.committed :=
    (Table.get?_insert ..).trans (if_pos rfl)
  have hensure := hwork (.begun (nextTransaction m)) _ rfl hcopy
  obtain ⟨closing, hclose⟩ := runs_closing hc m report.hasChanges cfg
  have hrun : Runs c (c.apply d) .fresh m (.ok report) .fresh (afterPass m report.hasChanges cfg) :=
    hopen.bind (Runs.orAbort (hensure.bind (hclose.bind (.pure report _ _))))
  have hcommitted : (afterPass m report.hasChanges cfg).committed = cfg := by
    show (if report.hasChanges then cfg else m.committed) = cfg
    split
    · rfl
    · rename_i hno
      exact (hconf.kept (Bool.eq_false_iff.2 hno)).symm
  refine ⟨report, _, hrun, ⟨report, rfl, ?_, rfl⟩, ?_, rfl⟩
  · rw [hcommitted]
    exact hconf
  · rw [hcommitted]
    exact hsettled

/-! ## Servers that cannot be named -/

/-- The object is among the servers of the backend, as long as there is a list of them. -/
def Stuck (name : String) (j : Json) (cfg : Configuration) : Prop :=
  ∀ js, cfg.servers.get? name = some js → j ∈ js

section
variable {name : String} {j : Json} {js js' : List Json}

theorem Stuck.insert (h : Stuck name j cfg) {b : String} (hkeep : j ∈ js → j ∈ js')
    (hjs : cfg.servers.get? b = some js) :
    Stuck name j { cfg with servers := cfg.servers.insert b js' } := by
  intro js₀ hjs₀
  rw [Table.get?_insert] at hjs₀
  split at hjs₀
  · rename_i hb
    cases hjs₀
    exact hkeep (h js (hb ▸ hjs))
  · exact h js₀ hjs₀

theorem mem_replaceFirst? {n : String} {body : Json} (hj : Memory.isNamed n j = false)
    (h : Memory.replaceFirst? n body js = some js') (hmem : j ∈ js) : j ∈ js' := by
  induction js generalizing js' with
  | nil => cases hmem
  | cons k js ih =>
    rw [Memory.replaceFirst?] at h
    split at h
    · rename_i hk
      cases h
      rcases List.mem_cons.1 hmem with rfl | hmem
      · rw [hj] at hk
        cases hk
      · exact List.mem_cons_of_mem _ hmem
    · obtain ⟨js₀, hjs₀, rfl⟩ := Option.map_eq_some_iff.1 h
      rcases List.mem_cons.1 hmem with rfl | hmem
      · exact List.mem_cons_self
      · exact List.mem_cons_of_mem _ (ih hjs₀ hmem)

theorem Stuck.onBackends (h : Stuck name j cfg) {method : Method} {b : Option String} {body : Json}
    (hpost : method = .post → b ≠ none) : Stuck name j (Memory.onBackends cfg method b body).2 := by
  unfold Memory.onBackends
  split
  · exact h
  · exact absurd rfl (hpost rfl)
  · split <;> exact h
  · split <;> exact h
  · rename_i b
    split
    · intro js hjs
      have hjs : (cfg.servers.erase b).get? name = some js := hjs
      rw [Table.get?_erase] at hjs
      split at hjs
      · cases hjs
      · exact h js hjs
    · exact h
  · exact h

theorem Stuck.onChecks (h : Stuck name j cfg) {method : Method} {b : String} {body : Json} :
    Stuck name j (Memory.onChecks cfg method b body).2 := by
  unfold Memory.onChecks
  split
  · split <;> exact h
  · split <;> exact h
  · exact h

theorem Stuck.onServers (h : Stuck name j cfg) {method : Method} {b : String} {n : Option String}
    {body : Json} (hn : ∀ k ∈ n, Memory.isNamed k j = false) :
    Stuck name j (Memory.onServers cfg method b n body).2 := by
  unfold Memory.onServers
  split
  · exact h
  · exact h.insert (fun hmem => List.mem_append_left _ hmem) ‹_›
  · split <;> exact h
  · split
    · exact h
    · rename_i hreplace
      exact h.insert (mem_replaceFirst? (hn _ rfl) hreplace) ‹_›
  · split
    · refine h.insert (fun hmem => List.mem_filter.2 ⟨hmem, ?_⟩) ‹_›
      rw [hn _ rfl]
      rfl
    · exact h
  all_goals exact h

/-- What is called by no plain name is not removed by requests that arrive with plain names; only a
new section of that name could displace it. -/
theorem Stuck.onConfiguration (h : Stuck name j cfg)
    (hj : ∀ n, Net.IsPlain n → Memory.isNamed n j = false) {method : Method} {path : List String}
    {body : Json} (hpath : ∀ n ∈ path, Net.IsPlain n)
    (hpost : method = .post → path ≠ ["backends"]) :
    Stuck name j (Memory.onConfiguration cfg method path body).2 := by
  unfold Memory.onConfiguration
  split
  · exact h.onBackends fun hm => absurd rfl (hpost hm)
  · exact h.onBackends fun _ => Option.some_ne_none _
  · exact h.onChecks
  · exact h.onServers (by simp)
  · rename_i n
    exact h.onServers fun k hk => by
      cases hk
      exact hj n (hpath n (by simp))
  · exact h

/-- A request about the parts of the backend leaves it there. -/
theorem Stuck.serve (hc : c.AtRoot) (hname : Net.IsPlain name) (h : Stuck name j cfg)
    (hj : ∀ n, Net.IsPlain n → Memory.isNamed n j = false) {q : Request} (hscoped : ScopedBy t q)
    (hparts : q.ConcernsParts name) (hcfg : m.staged.get? t.id = some cfg) :
    ∃ cfg', (m.serve c q).2 = m.staging t.id cfg' ∧ Stuck name j cfg' := by
  obtain hs | ⟨path, hpath, hs⟩ := Memory.serve_configuration (m := m) hc hscoped.1
  · exact ⟨cfg, by rw [hs, Memory.staging_self hcfg], h⟩
  · by_cases hpost : q.method = .post
    · -- What is created is a server, and its place is found as it is named.
      obtain rfl | ⟨_, kind, rest, hsegments, hservers⟩ := hparts
      · cases hpost
      · obtain ⟨rfl, rfl⟩ := hservers hpost
        have hplain : ∀ n ∈ q.endpoint.segments, Net.IsPlain n := by
          rw [hsegments]
          exact isPlain_backends hname (by decide)
        have hserve := Memory.serve_scoped_plain hc hscoped hplain (by simp [hsegments]) hcfg
        refine ⟨_, by rw [hserve, Memory.sent], h.onConfiguration hj hplain fun _ => ?_⟩
        simp [hsegments]
    · rw [hs, Memory.sent, Memory.onArea_scoped (Memory.parameter?_wire hc hscoped.2), hcfg]
      split
      · exact ⟨cfg, (Memory.staging_self hcfg).symm, h⟩
      · exact ⟨_, rfl, h.onConfiguration hj hpath fun hm => absurd hm hpost⟩

/-- So do any number of them. -/
theorem Stuck.answered (hc : c.AtRoot) (hname : Net.IsPlain name) (h : Stuck name j cfg)
    (hj : ∀ n, Net.IsPlain n → Memory.isNamed n j = false) {sent : List Sent} {n : Nat}
    (hscoped : ∀ x ∈ sent, ScopedBy t x.request) (hparts : ∀ x ∈ sent, x.request.ConcernsParts name)
    (hcfg : m.staged.get? t.id = some cfg) (hanswered : Answered c (fun _ => none) n m sent m') :
    ∃ cfg', m' = m.staging t.id cfg' ∧ Stuck name j cfg' := by
  induction sent generalizing m cfg n with
  | nil =>
    cases hanswered
    exact ⟨cfg, (Memory.staging_self hcfg).symm, h⟩
  | cons x sent ih =>
    obtain ⟨hx, hscoped⟩ := List.forall_mem_cons.1 hscoped
    obtain ⟨hx', hparts⟩ := List.forall_mem_cons.1 hparts
    obtain ⟨_, hrest⟩ := Answered.cons_iff.1 hanswered
    obtain ⟨cfg₁, hserve, h₁⟩ := h.serve hc hname hj hx hx' hcfg
    have hrest : Answered c (fun _ => none) (n + 1) (m.staging t.id cfg₁) sent m' := hserve ▸ hrest
    obtain ⟨cfg', hm', h'⟩ := ih h₁ hscoped hparts Memory.get?_staging hrest
    rw [Memory.staging_staging] at hm'
    exact ⟨cfg', hm', h'⟩

/-- So does a step inside the transaction that makes only such requests. -/
theorem Stuck.runs {α : Type} (hc : c.AtRoot) (hname : Net.IsPlain name) (h : Stuck name j cfg)
    (hj : ∀ n, Net.IsPlain n → Memory.isNamed n j = false) {x : SessionM α}
    (hstaged : Staged t x) (honly : Only (·.ConcernsParts name) x) {s s' : Session}
    (hs : s.transaction = some t) (hcfg : m.staged.get? t.id = some cfg)
    {r : Except ClientError α} (hrun : Runs c x s m r s' m') :
    ∃ changed cfg', s' = s.marked changed ∧ m' = m.staging t.id cfg' ∧ Stuck name j cfg' := by
  obtain ⟨sent, hconduct, hanswered⟩ := hrun.conduct
  have hstage := hstaged _ _ _ _ hs hconduct
  obtain ⟨cfg', hm', h'⟩ :=
    h.answered hc hname hj hstage.inScope (honly _ _ _ _ hconduct) hcfg hanswered
  exact ⟨_, cfg', hstage.session, hm', h'⟩

/-- Every object of a list is kept for a server, and every server has one. -/
theorem exists_kept {ss : List Wire.Server}
    (h : List.Forall₂ (fun j s => Wire.Server.IsKept j s) js ss) :
    (∀ j ∈ js, ∃ s ∈ ss, s.IsKept j) ∧ ∀ s ∈ ss, ∃ j ∈ js, s.IsKept j := by
  induction h with
  | nil => exact ⟨by simp, by simp⟩
  | @cons j s js ss hkept _ ih =>
    refine ⟨List.forall_mem_cons.2 ⟨⟨s, List.mem_cons_self, hkept⟩, fun k hk => ?_⟩,
      List.forall_mem_cons.2 ⟨⟨j, List.mem_cons_self, hkept⟩, fun u hu => ?_⟩⟩
    · obtain ⟨u, hu, hkept'⟩ := ih.1 k hk
      exact ⟨u, List.mem_cons_of_mem _ hu, hkept'⟩
    · obtain ⟨k, hk, hkept'⟩ := ih.2 u hu
      exact ⟨k, List.mem_cons_of_mem _ hk, hkept'⟩

/-- What is kept for a server is among the objects of its backend. -/
theorem stuck_of_serves {ss : List Wire.Server} (h : cfg.Serves name ss) {s : Wire.Server}
    (hs : s ∈ ss) : ∃ j, Stuck name j cfg ∧ s.IsKept j := by
  obtain ⟨js, hjs, hkept⟩ := h
  obtain ⟨j, hj, hserver⟩ := (exists_kept hkept).2 s hs
  refine ⟨j, fun js' hjs' => ?_, hserver⟩
  obtain rfl : js = js' := Option.some.inj (hjs.symm.trans hjs')
  exact hj

/-- Where a server is stuck that is not wanted, things are not as they are wanted. -/
theorem Stuck.not_settled (h : Stuck d.name j cfg) {s : Wire.Server} (hj : s.IsKept j)
    (hs : s.name ∉ d.wireServers.map (·.name)) : ¬ Settled d cfg := by
  intro hsettled
  obtain ⟨ss, ⟨js, hjs, hkept⟩, hperm, _⟩ := hsettled.servers
  obtain ⟨s', hs', hj'⟩ := (exists_kept hkept).1 j (h js hjs)
  obtain rfl : s' = s := Option.some.inj (hj'.told.symm.trans hj.told)
  exact hs (hperm.mem_iff.1 (List.mem_map_of_mem hs'))

end

/-- A pass that converges found only servers with plain names. -/
theorem isPlain_of_converged (hc : c.AtRoot) (hd : d.IsPlain) (hm : m.HasRoom)
    (h : Manageable d.name m.committed stored) {r : Except ClientError SyncReport} {s' : Session}
    (hrun : Runs c (c.apply d) .fresh m r s' m') (hconverged : Converged d r m m') :
    ∀ s ∈ stored, Net.IsPlain s.name := by
  intro s hs
  by_contra hno
  have hunwanted := hd.not_wanted hno
  obtain ⟨report, rfl, _⟩ := hconverged.reported
  obtain ⟨_, s₁, m₁, hopen, hinner⟩ := Runs.of_bind hrun
  obtain ⟨_, rfl, rfl⟩ := hopen.unique (runs_openTransaction hc hm)
  obtain ⟨report', s₂, m₂, hensure, hfinish⟩ := Runs.of_bind (Runs.of_orAbort hinner)
  -- Bringing the definition in line leaves the servers as they were.
  obtain ⟨_, s₃, m₃, hdefinition, hparts⟩ := Runs.of_bind hensure
  obtain ⟨x, rfl, hx⟩ := h.remote
  obtain ⟨change, cfg₁, _, hwork, _, _, _, _, hserves, _⟩ :=
    works_definition (t := nextTransaction m) hc hd.name hx
  have hcopy : m.opening.staged.get? m.nextId = some m.committed :=
    (Table.get?_insert ..).trans (if_pos rfl)
  obtain ⟨_, rfl, rfl⟩ := hdefinition.unique (hwork _ _ rfl hcopy)
  obtain ⟨j, hstuck, hj⟩ := stuck_of_serves hserves hs
  have hunnamed : ∀ n, Net.IsPlain n → Memory.isNamed n j = false := by
    intro n hn
    rw [hj.isNamed, beq_false_of_ne]
    rintro rfl
    exact hno hn
  -- What follows is about the check list and the servers, and leaves this one where it is.
  obtain ⟨changed, cfg₂, rfl, rfl, hstuck₂⟩ := hstuck.runs hc hd.name hunnamed
    ((staged_ensureHttpChecks _ _).bind fun _ =>
      (staged_syncServers _ _).bind fun _ => staged_pure _)
    ((only_ensureHttpChecks _ _).bind fun _ => (only_syncServers _ _).bind fun _ => only_pure _)
    rfl Memory.get?_staging hparts
  -- Whether the copy is committed or forgotten, the server is there afterwards.
  obtain ⟨_, s₄, m₄, hclose, hdone⟩ := Runs.of_bind hfinish
  obtain ⟨_, _, rfl⟩ := hdone.unique (.pure report' s₄ m₄)
  obtain ⟨_, hclosing⟩ := runs_closing hc m (change.isWrite || changed) cfg₂
  rw [Memory.staging_staging] at hclose
  obtain ⟨_, _, rfl⟩ := hclose.unique hclosing
  have hsettled := hconverged.settled
  cases hchanged : change.isWrite || changed with
  | true =>
    rw [hchanged] at hsettled
    exact hstuck₂.not_settled hj hunwanted hsettled
  | false =>
    rw [hchanged] at hsettled
    obtain ⟨_, hnone⟩ | ⟨_, _, _, hserves₀⟩ := h.definition
    · rw [hnone] at hs
      cases hs
    · obtain ⟨j₀, hstuck₀, hj₀⟩ := stuck_of_serves hserves₀ hs
      exact hstuck₀.not_settled hj₀ hunwanted hsettled

/-! ## Convergence -/

/-- Run alone on the memory, as a session of its own, the pass for the backend converges. -/
def Converges (c : Client) (d : Resolved) (m : Memory) (log : Log) : Prop :=
  ∃ m', (((c.apply d).start .fresh).run (Plane.answer c) (.holding m, log)).2.1 = .holding m' ∧
    Converged d (((c.apply d).start .fresh).run (Plane.answer c) (.holding m, log)).1.1 m m'

theorem converges_of_isPlain (hc : c.AtRoot) (hd : d.IsPlain) (hm : m.HasRoom)
    (h : Manageable d.name m.committed stored) (log : Log)
    (hstored : ∀ s ∈ stored, Net.IsPlain s.name) : Converges c d m log := by
  obtain ⟨report, m', hruns, hconverged⟩ := runs_apply hc hd hm h hstored
  obtain ⟨_, hrun⟩ := hruns log
  refine ⟨m', by rw [hrun], ?_⟩
  rw [hrun]
  exact hconverged

theorem isPlain_of_converges (hc : c.AtRoot) (hd : d.IsPlain) (hm : m.HasRoom)
    (h : Manageable d.name m.committed stored) {log : Log} (hconverges : Converges c d m log) :
    ∀ s ∈ stored, Net.IsPlain s.name := by
  obtain ⟨m', hholding, hconverged⟩ := hconverges
  obtain ⟨m₀, _, hlast, hanswered⟩ := answered_clean (c := c) ((c.apply d).start .fresh) 0 m log
  obtain rfl : m' = m₀ := by
    rw [hlast] at hholding
    simpa [Plane.holding] using hholding.symm
  have hrun := Runs.of_conduct
    (conduct_run (Plane.answer c) (c.apply d) .fresh (.holding m, log)) hanswered
  exact isPlain_of_converged hc hd hm h hrun hconverged

/-- A pass brings the backend in line, whatever was there before, just if the servers that are there
have plain names. -/
theorem converges_iff_isPlain (hc : c.AtRoot) (hd : d.IsPlain) (hm : m.HasRoom)
    (h : Manageable d.name m.committed stored) (log : Log) :
    Converges c d m log ↔ ∀ s ∈ stored, Net.IsPlain s.name :=
  ⟨isPlain_of_converges hc hd hm h, converges_of_isPlain hc hd hm h log⟩

/-- A configuration with one backend of this program and these servers. -/
def serving (b : Wire.Backend) (ss : List Wire.Server) : Configuration :=
  { backends := Table.empty.insert b.name b.stamped.toJson
    servers := Table.empty.insert b.name (ss.map (·.toJson))
    httpChecks := .empty }

theorem isAt_serving (b : Wire.Backend) (hdistinct : (stored.map (·.name)).Nodup) :
    Remote.IsAt ⟨some b.stamped, [], stored⟩ b.name (serving b stored) where
  definition := by
    have hdefines : (serving b stored).Defines b.name b.stamped :=
      ⟨_, (Table.get?_insert ..).trans (if_pos rfl), told?_backend _⟩
    have hkept : List.Forall₂ (fun j s => Wire.Server.IsKept j s) (stored.map (·.toJson)) stored :=
      List.forall₂_map_left_iff.2 (List.forall₂_same.2 fun s _ => isKept_toJson s)
    exact ⟨hdefines, rfl, _, (Table.get?_insert ..).trans (if_pos rfl), hkept⟩
  checks := told?_checks []
  distinct := hdistinct

theorem manageable_serving (b : Wire.Backend) (hdistinct : (stored.map (·.name)).Nodup) :
    Manageable b.name (serving b stored) stored where
  definition := .inr ⟨_, (isAt_serving b hdistinct).definition⟩
  checks := ⟨[], told?_checks []⟩
  distinct := hdistinct

/-- A backend with one server. -/
def shop : Resolved :=
  { name := "shop", mode := none, algorithm := none, advCheck := none
    servers := [{ name := "a", address := "10.0.0.1", port := none, id := none, check := none }]
    httpChecks := [] }

/-- A server that is not wanted. -/
def stale (name : String) : Wire.Server :=
  { name, address := "10.0.0.9", port := none, id := none, check := none }

theorem isPlain_shop : shop.IsPlain := ⟨by decide, by decide, by decide⟩

/-- A case of it: a server that is not wanted any more is removed. -/
theorem converges_stale_server :
    Converges (onThisHost 5555 "admin" "secret") shop
      (.ofConfiguration 1 (serving shop.wireBackend [stale "b"])) [] := by
  have hroom : (Memory.ofConfiguration 1 (serving shop.wireBackend [stale "b"])).HasRoom :=
    ⟨by decide, by decide⟩
  have hmanageable : Manageable shop.name (serving shop.wireBackend [stale "b"]) [stale "b"] :=
    manageable_serving shop.wireBackend (by decide)
  have hplain : ∀ s ∈ [stale "b"], Net.IsPlain s.name := by decide
  exact (converges_iff_isPlain (atRoot_onThisHost 5555 "admin" "secret") isPlain_shop hroom
    hmanageable []).2 hplain

/-- A server with the name of a step in the hierarchy cannot be removed, although everything can be
read and all names are distinct. -/
theorem not_converges_dots :
    (onThisHost 5555 "admin" "secret").AtRoot ∧ shop.IsPlain ∧
    (Memory.ofConfiguration 1 (serving shop.wireBackend [stale ".."])).HasRoom ∧
    Manageable shop.name (serving shop.wireBackend [stale ".."]) [stale ".."] ∧
    ¬ Converges (onThisHost 5555 "admin" "secret") shop
      (.ofConfiguration 1 (serving shop.wireBackend [stale ".."])) [] := by
  have hroot := atRoot_onThisHost 5555 "admin" "secret"
  have hroom : (Memory.ofConfiguration 1 (serving shop.wireBackend [stale ".."])).HasRoom :=
    ⟨by decide, by decide⟩
  have hmanageable : Manageable shop.name (serving shop.wireBackend [stale ".."]) [stale ".."] :=
    manageable_serving shop.wireBackend (by decide)
  refine ⟨hroot, isPlain_shop, hroom, hmanageable, fun hconverges => ?_⟩
  have hplain := isPlain_of_converges hroot isPlain_shop hroom hmanageable hconverges
  exact absurd (hplain _ List.mem_cons_self) (by decide)

end DataPlane.Client
end ProxySync
