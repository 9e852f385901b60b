import Mathlib.Data.List.Nodup
import ProxySync.Proofs.Session.Making
/-!
# Backends that are as they are wanted

A pass over a backend that is settled only reads, and discards its transaction. A server that is not
wanted and cannot be named stays where it is, and every pass asks anew for its removal.

## Main definitions

* `Rests`: a pass that finds nothing to do.
* `Client.Keeps`: a server that is there as long as there is a list of servers.

## Main statements

* `Client.rests_of_settled`: a pass over what is settled finds nothing to do.
* `Client.not_rests_of_keeps`: a pass over a server that is not wanted does not.
* `Client.keeps_of_apply`: what cannot be named is kept.
* `Client.rests_iff_isPlain`: when a pass leaves nothing to do.
-/
namespace ProxySync
open DataPlane SessionM
variable {α : Type} {c : Client} {t : Wire.Transaction}

/-! ## What is settled -/

namespace DataPlane.Client
variable {cfg : Configuration} {name : String} {d : Resolved}

theorem only_get_find? {segments : List String} {operation what : String}
    {read : Json → Option α} :
    Only (·.method = .get) (c.find? segments operation what read) :=
  poses_find?.only rfl fun _ => rfl

theorem isManaged_of_same {b b' : Wire.Backend} (h : b.same b'.stamped = true) :
    b.isManaged = true := by
  simp only [Wire.Backend.same, Bool.and_eq_true] at h
  exact h.2

/-- A look at a section shows that there is none, or how it is told. -/
theorem reads_getBackend_absent (hc : c.AtRoot) (hname : Net.IsPlain name)
    (habsent : cfg.backends.get? name = none) : Reads c t (c.getBackend name) cfg none := by
  refine (works_find?_absent hc (isPlain_backends hname (by simp)) (by simp) ?_).reads
    only_get_find?
  simp [Memory.onConfiguration, Memory.onBackends, habsent]

theorem reads_getBackend (hc : c.AtRoot) (hname : Net.IsPlain name) {b : Wire.Backend}
    (hb : cfg.Defines name b) : Reads c t (c.getBackend name) cfg (some b) := by
  obtain ⟨j, hj, htold⟩ := hb
  refine (works_find? hc (isPlain_backends hname (by simp)) (by simp) ?_ htold).reads
    only_get_find?
  simp [Memory.onConfiguration, Memory.onBackends, hj]

/-- A section that agrees is read once. -/
theorem reads_ensureDefinition (hc : c.AtRoot) {b current : Wire.Backend}
    (hname : Net.IsPlain b.name) (hcurrent : cfg.Defines b.name current)
    (hsame : current.same b.stamped = true) :
    Reads c t (c.ensureDefinition b) cfg .unchanged := by
  have hget : Reads c t (c.getBackend b.name) cfg (some current) :=
    reads_getBackend hc hname hcurrent
  refine hget.bind ?_
  simp only [isManaged_of_same hsame, hsame]
  exact .pure _ _

/-- So is a check list. -/
theorem reads_ensureHttpChecks (hc : c.AtRoot) (hname : Net.IsPlain name)
    {cs wanted : List Wire.HttpCheck} (hthere : cfg.backends.contains name = true)
    (hcs : cfg.Checks name cs) (hsame : Wire.HttpCheck.sameList cs wanted = true) :
    Reads c t (c.ensureHttpChecks name wanted) cfg .unchanged := by
  have hfind : Reads c t (c.find? ["backends", name, "http_checks"] "get http checks"
      "http check list" (Json.list? Wire.HttpCheck.ofJson?)) cfg (some cs) := by
    refine (works_find? hc (isPlain_backends hname (by decide)) (by simp) ?_ hcs).reads
      only_get_find?
    simp [Memory.onConfiguration, Memory.onChecks, hthere]
  have hget : Reads c t (c.getHttpChecks name) cfg cs := hfind.bind (.pure cs cfg)
  refine hget.bind ?_
  simp only [hsame]
  exact .pure _ _

section
variable {ss : List Wire.Server} (hc : c.AtRoot) (hname : Net.IsPlain name)
  (hss : cfg.Serves name ss) (hdistinct : (ss.map (·.name)).Nodup)
include hc hname hss

include hdistinct in
/-- So is a server. -/
theorem reads_ensureServer {w : Wire.Server} (hw : Net.IsPlain w.name)
    (hthere : ∃ s ∈ ss, s.same w = true) :
    Reads c t (c.ensureServer name w) cfg .unchanged := by
  obtain ⟨js, hjs, hkept⟩ := hss
  obtain ⟨s, hs, hsame⟩ := hthere
  have hsw : s.name = w.name := Wire.Server.name_of_same hsame
  have hget : Reads c t (c.getServer name w.name) cfg (some s) := by
    obtain ⟨_, hnew⟩ | ⟨j, s', hfind, hs', hname', hj⟩ := find?_kept hkept w.name
    · exact absurd hsw (hnew s hs)
    · obtain rfl : s' = s := List.inj_on_of_nodup_map hdistinct hs' hs (hname'.trans hsw.symm)
      refine (works_find? hc (isPlain_backends hname (by simpa using ⟨by decide, hw⟩)) (by simp) ?_
        hj.told).reads only_get_find?
      simp [Memory.onConfiguration, Memory.onServers, hjs, hfind]
  refine hget.bind ?_
  simp only [hsame]
  exact .pure _ _

include hdistinct in
theorem reads_ensureServers {ws : List Wire.Server} (hws : ∀ w ∈ ws, Net.IsPlain w.name)
    (hthere : ∀ w ∈ ws, ∃ s ∈ ss, s.same w = true) (report : ServerReport) :
    Reads c t (c.ensureServers name report ws) cfg report := by
  induction ws with
  | nil => exact .pure _ _
  | cons w ws ih =>
    obtain ⟨hw, hws⟩ := List.forall_mem_cons.1 hws
    obtain ⟨hw', hthere⟩ := List.forall_mem_cons.1 hthere
    exact (reads_ensureServer hc hname hss hdistinct hw hw').bind (ih hws hthere)

/-- A list of servers that can be read. -/
theorem works_listServers : Works c t (c.listServers name) cfg ss false cfg := by
  obtain ⟨js, hjs, hkept⟩ := hss
  refine works_list hc (isPlain_backends hname (by decide)) (by simp) ?_ (told?_servers hkept)
  simp [Memory.onConfiguration, Memory.onServers, hjs]

/-- Servers that are as they are wanted are read one by one and then as a list. -/
theorem reads_syncServers {wanted : List Wire.Server}
    (hplain : ∀ w ∈ wanted, Net.IsPlain w.name) (hwanted : (wanted.map (·.name)).Nodup)
    (hperm : (ss.map (·.name)).Perm (wanted.map (·.name)))
    (hthere : ∀ w ∈ wanted, ∃ s ∈ ss, s.same w = true) :
    Reads c t (c.syncServers name wanted) cfg .empty := by
  have hextra : (ss.map (·.name)).filter (fun n => !(wanted.map (·.name)).contains n) = [] := by
    refine List.filter_eq_nil_iff.2 fun n hn => ?_
    simpa using hperm.mem_iff.1 hn
  have hlist : Reads c t (c.listServers name) cfg ss :=
    (works_listServers hc hname hss).reads (poses_list.only rfl fun _ => rfl)
  refine (reads_ensureServers hc hname hss (hperm.nodup_iff.2 hwanted) hplain hthere .empty).bind
    (hlist.bind ?_)
  rw [hextra]
  exact .pure _ _

end

/-- A settled backend is read, and nothing is reported. -/
theorem reads_ensureBackend (hc : c.AtRoot) (hd : d.IsPlain) (h : Settled d cfg) :
    Reads c t (c.ensureBackend d) cfg
      { backend := .unchanged, httpChecks := .unchanged, servers := .empty } := by
  obtain ⟨b, hb, hsame⟩ := h.definition
  obtain ⟨cs, hcs, hchecks⟩ := h.checks
  obtain ⟨ss, hss, hperm, hagree⟩ := h.servers
  have hthere : cfg.backends.contains d.name = true := by
    obtain ⟨j, hj, _⟩ := hb
    rw [Table.contains, hj]
    rfl
  have hdefinition : Reads c t (c.ensureDefinition d.wireBackend) cfg .unchanged :=
    reads_ensureDefinition hc hd.name hb hsame
  exact hdefinition.bind ((reads_ensureHttpChecks hc hd.name hthere hcs hchecks).bind
    ((reads_syncServers hc hd.name hss hd.servers hd.distinct hperm hagree).bind (.pure _ _)))

/-! ## Passes that find nothing to do -/

variable {m m' : Memory}

/-- The pass for the backend ends well and reports no change. Besides reading it opens a transaction
and discards it, and leaves what is committed. -/
def Rests (c : Client) (d : Resolved) (m : Memory) : Prop :=
  ∃ sent report s' m', Makes c (c.apply d) .fresh m sent (.ok report) s' m' ∧
    report.hasChanges = false ∧
    writes sent = [openRequest (Int64.ofInt m.version), discardRequest (nextTransaction m)] ∧
    m'.version = m.version ∧ m'.committed = m.committed

/-- A pass over what is settled finds nothing to do. -/
theorem rests_of_settled (hc : c.AtRoot) (hd : d.IsPlain) (hm : m.HasRoom)
    (h : Settled d m.committed) : Rests c d m := by
  have hcopy : m.opening.staged.get? m.nextId = some m.committed :=
    Memory.get?_opening (t := nextTransaction m) rfl
  obtain ⟨sent, hensure, hreads⟩ := reads_ensureBackend (t := nextTransaction m) hc hd h
    (.begun (nextTransaction m)) _ rfl hcopy
  obtain ⟨sent', hpass, hwrites⟩ := makes_pass_kept hc hm id hensure
  rw [writes_eq_nil.2 hreads] at hwrites
  exact ⟨sent', _, _, _, hpass, rfl, hwrites, rfl, rfl⟩

/-! ## Servers that cannot be named -/

/-- The server is among those of the backend, as long as there is a list of them, and the list can
be read. -/
def Keeps (name : String) (s : Wire.Server) (cfg : Configuration) : Prop :=
  ∀ js, cfg.servers.get? name = some js →
    ∃ ss, List.Forall₂ (fun j s => Wire.Server.IsKept j s) js ss ∧ s ∈ ss

section
variable {s : Wire.Server} {ss stored : List Wire.Server}

theorem keeps_of_serves (h : cfg.Serves name ss) (hs : s ∈ ss) : Keeps name s cfg := by
  obtain ⟨js, hjs, hkept⟩ := h
  intro js' hjs'
  obtain rfl : js = js' := Option.some.inj (hjs.symm.trans hjs')
  exact ⟨ss, hkept, hs⟩

theorem Keeps.onServers_delete (h : Keeps name s cfg) {b : String} {n : Option String}
    {body : Json} (hn : ∀ k ∈ n, s.name ≠ k) :
    Keeps name s (Memory.onServers cfg .delete b n body).2 := by
  cases n with
  | none => exact h
  | some k =>
    cases hjs : cfg.servers.get? b with
    | none => simpa [Memory.onServers, hjs] using h
    | some js =>
      simp only [Memory.onServers, hjs]
      split
      · intro js' hjs'
        rw [Table.get?_insert] at hjs'
        split at hjs'
        · rename_i hb
          cases hjs'
          obtain ⟨ss, hkept, hmem⟩ := h js (hb ▸ hjs)
          exact ⟨_, filter_kept hkept k, List.mem_filter.2 ⟨hmem, by simpa using hn k rfl⟩⟩
        · exact h js' hjs'
      · exact h

/-- A deletion that arrives with plain names does not remove what is called by none. -/
theorem Keeps.onConfiguration_delete (h : Keeps name s cfg) (hs : ¬ Net.IsPlain s.name)
    {path : List String} {body : Json} (hpath : ∀ n ∈ path, Net.IsPlain n) :
    Keeps name s (Memory.onConfiguration cfg .delete path body).2 := by
  unfold Memory.onConfiguration
  split
  · exact h
  · rename_i b
    rw [Memory.onBackends]
    split
    · intro js hjs
      have hjs : (cfg.servers.erase b).get? name = some js := hjs
      rw [Table.get?_erase] at hjs
      split at hjs
      · cases hjs
      · exact h js hjs
    · exact h
  · exact h
  · exact h.onServers_delete (by simp)
  · rename_i n
    refine h.onServers_delete fun k hk => ?_
    cases hk
    rintro rfl
    exact hs (hpath _ (by simp))
  · exact h

theorem only_delete_deleteServers (report : ServerReport) (names : List String) :
    Only (fun q => ScopedBy t q → q.method = .delete) (c.deleteServers name report names) :=
  only_deleteServers_of (fun h => by cases h.2) (fun _ _ _ => rfl) report names

/-- Whatever servers are deleted, one that cannot be named is kept. -/
theorem Keeps.deleteServers (hc : c.AtRoot) (h : Keeps name s cfg) (hs : ¬ Net.IsPlain s.name)
    {report : ServerReport} {names : List String} {r : Except ClientError ServerReport}
    {s₀ s₁ : Session} (hs₀ : s₀.transaction = some t) (hcfg : m.staged.get? t.id = some cfg)
    (hrun : Runs c (c.deleteServers name report names) s₀ m r s₁ m') :
    ∃ cfg', m' = m.staging t.id cfg' ∧ Keeps name s cfg' := by
  obtain ⟨cfg', hm', _, hkept⟩ := hrun.copies
    (R := fun cfg cfg' => Keeps name s cfg → Keeps name s cfg') (fun _ => id)
    (fun h h' hcfg => h' (h hcfg)) (staged_deleteServers name report names)
    (only_delete_deleteServers report names) (fun q hq hscope => by
      refine .of_anywhere hc hscope (fun _ => id) fun cfg path hpath hkeeps => ?_
      rw [hq hscope]
      exact hkeeps.onConfiguration_delete hs hpath) hs₀ hcfg
  exact ⟨cfg', hm', hkept h⟩

variable {report : SyncReport} {s' : Session}

/-- A pass that went well leaves the copy of its steps, committed or not. -/
theorem afterPass_of_apply (hc : c.AtRoot) (hm : m.HasRoom)
    (h : Runs c (c.apply d) .fresh m (.ok report) s' m') :
    ∃ changed cfg s₁, Runs c (c.ensureBackend d) (.begun (nextTransaction m)) m.opening (.ok report)
        s₁ (m.opening.staging m.nextId cfg) ∧ m' = afterPass m changed cfg := by
  obtain ⟨_, r, changed, cfg, hmakes⟩ := exists_makes hc m (staged_ensureBackend d)
  obtain ⟨_, hpass, _⟩ := makes_pass hc hm id hmakes
  obtain ⟨hr, _, rfl⟩ := h.unique hpass.runs
  cases r with
  | ok report' =>
    cases hr
    exact ⟨_, cfg, _, hmakes.runs, rfl⟩
  | error e => cases hr

/-- A pass that went well wrote what its steps wrote, between the requests that open and close its
transaction. -/
theorem makes_of_apply (hc : c.AtRoot) (hm : m.HasRoom) {sent : List Sent}
    (h : Makes c (c.apply d) .fresh m sent (.ok report) s' m') :
    ∃ sent₁ s₁ m₁, Makes c (c.ensureBackend d) (.begun (nextTransaction m)) m.opening sent₁
        (.ok report) s₁ m₁ ∧
      writes sent = openRequest (Int64.ofInt m.version) :: writes sent₁ ++
        [if s₁.dirty then c.commitRequest (nextTransaction m)
          else discardRequest (nextTransaction m)] := by
  obtain ⟨_, _, _, _, _, rfl, hopen, hinner⟩ := h.of_bind
  obtain ⟨ht, rfl, rfl⟩ := hopen.runs.unique (runs_openTransaction hc hm)
  cases ht
  obtain ⟨sent₁, _, _, s₁, m₁, rfl, hensure, hfinish⟩ := hinner.of_orAbort.of_bind
  obtain ⟨_, _, _, _, _, rfl, hclose, hdone⟩ := hfinish.of_bind
  obtain ⟨rfl, hreport, rfl⟩ := conduct_pure.1 hdone.conduct
  cases hreport
  have hs₁ : s₁.transaction = some (nextTransaction m) := by
    rw [(staged_ensureBackend d _ _ _ _ rfl hensure.conduct).session]
    rfl
  refine ⟨sent₁, s₁, m₁, hensure, ?_⟩
  rw [writes_append, writes_append, writes_append, writes_of_open hc hm hopen,
    writes_of_close hs₁ hclose]
  rfl

section
variable {x : Remote} {t : Wire.Transaction} {s s' : Session} {sent : List Sent}
  (hc : c.AtRoot) (hd : d.IsPlain) (hx : x.IsAt d.name cfg) (hs : s.transaction = some t)
  (hcfg : m.staged.get? t.id = some cfg)
include hc hd hx hs hcfg

/-- A backend is brought in line in three stages, the first two of which report what sets the
backend apart, and the last of which finds the servers as they were. -/
theorem of_ensureBackend (h : Makes c (c.ensureBackend d) s m sent (.ok report) s' m') :
    ∃ sent₁ sent₂ sent₃ s₁ s₂ m₁ cfg₂, sent = sent₁ ++ (sent₂ ++ sent₃) ∧
      Makes c (c.ensureDefinition d.wireBackend) s m sent₁ (.ok report.backend) s₁ m₁ ∧
      Makes c (c.ensureHttpChecks d.name d.wireChecks) s₁ m₁ sent₂ (.ok report.httpChecks) s₂
        (m.staging t.id cfg₂) ∧
      Makes c (c.syncServers d.name d.wireServers) s₂ (m.staging t.id cfg₂) sent₃
        (.ok report.servers) s' m' ∧
      s₁.transaction = some t ∧ s₂.transaction = some t ∧ cfg₂.Serves d.name x.servers ∧
      report.backend = (x.difference d).backend ∧
      report.httpChecks = (x.difference d).httpChecks := by
  obtain ⟨sent₁, _, change₁, s₁, m₁, rfl, hdefinition, hrest⟩ := h.of_bind
  obtain ⟨_, cfg₁, b, hwork₁, hchange₁, ⟨j, hj, _⟩, _, hcs, hserves, _⟩ :=
    works_definition hc hd.name hx
  obtain ⟨hvalue₁, rfl, rfl⟩ := hdefinition.runs.unique (hwork₁ _ _ hs hcfg)
  cases hvalue₁
  obtain ⟨sent₂, _, change₂, s₂, m₂, rfl, hchecks, hrest⟩ := hrest.of_bind
  have hthere : cfg₁.backends.contains d.name = true := by
    rw [Table.contains, hj]
    rfl
  obtain ⟨_, cfg₂, _, hwork₂, hchange₂, _, _, _, hservers, _⟩ :=
    works_ensureHttpChecks hc hd.name d.wireChecks hthere hcs
  obtain ⟨hvalue₂, rfl, rfl⟩ := hchecks.runs.unique (hwork₂ _ _ hs Memory.get?_staging)
  cases hvalue₂
  have hserves₂ : cfg₂.Serves d.name x.servers := by
    rw [Configuration.Serves, hservers]
    exact hserves
  obtain ⟨sent₃, _, servers, s₃, m₃, rfl, hsync, hdone⟩ := hrest.of_bind
  obtain ⟨rfl, hr, rfl⟩ := conduct_pure.1 hdone.conduct
  cases hr
  cases hdone.answered
  rw [Memory.staging_staging] at hchecks hsync
  exact ⟨sent₁, sent₂, sent₃, _, _, _, cfg₂, by simp, hdefinition, hchecks, hsync, hs, hs, hserves₂,
    hchange₁, hchange₂⟩

end

/-- Servers are brought in line by ensuring those that are wanted, by a look at what is there then,
and by deletions. -/
theorem of_syncServers (hc : c.AtRoot) (hname : Net.IsPlain name) {wanted ss : List Wire.Server}
    (hplain : ∀ w ∈ wanted, Net.IsPlain w.name) (hss : cfg.Serves name ss)
    (hdistinct : (ss.map (·.name)).Nodup) {t : Wire.Transaction} {s s' : Session}
    {sent : List Sent} {servers : ServerReport} (hs : s.transaction = some t)
    (hcfg : m.staged.get? t.id = some cfg)
    (h : Makes c (c.syncServers name wanted) s m sent (.ok servers) s' m') :
    ∃ sent₁ sent₂ sent₃ s₁ cfg₁, sent = sent₁ ++ (sent₂ ++ sent₃) ∧
      Makes c (c.ensureServers name .empty wanted) s m sent₁ (.ok (Wire.noted ss .empty wanted)) s₁
        (m.staging t.id cfg₁) ∧
      Makes c (c.listServers name) s₁ (m.staging t.id cfg₁) sent₂
        (.ok (wanted.foldl Wire.withServer ss)) s₁ (m.staging t.id cfg₁) ∧
      Makes c (c.deleteServers name (Wire.noted ss .empty wanted)
        (Wire.serverDifference ss wanted).deleted) s₁ (m.staging t.id cfg₁) sent₃ (.ok servers) s'
        m' ∧
      s₁.transaction = some t ∧ cfg₁.Serves name (wanted.foldl Wire.withServer ss) := by
  obtain ⟨sent₁, _, _, s₁, m₁, rfl, hensure, hrest⟩ := h.of_bind
  obtain ⟨_, cfg₁, hwork₁, _, hserves₁, _⟩ :=
    works_ensureServers hc hname hplain hss hdistinct .empty
  obtain ⟨hnoted, rfl, rfl⟩ := hensure.runs.unique (hwork₁ _ _ hs hcfg)
  cases hnoted
  obtain ⟨sent₂, sent₃, _, s₂, m₂, rfl, hlist, hdelete⟩ := hrest.of_bind
  obtain ⟨hlisted, rfl, rfl⟩ := hlist.runs.unique
    (works_listServers hc hname hserves₁ _ _ hs Memory.get?_staging)
  cases hlisted
  rw [extra_foldl] at hdelete
  rw [Session.marked_false, Memory.staging_staging] at hlist hdelete
  exact ⟨sent₁, sent₂, sent₃, _, cfg₁, rfl, hensure, hlist, hdelete, hs, hserves₁⟩

/-- A pass that went well keeps what cannot be named. -/
theorem keeps_of_apply (hc : c.AtRoot) (hd : d.IsPlain) (hm : m.HasRoom)
    (h : Manageable d.name m.committed stored) (hs : s ∈ stored) (hno : ¬ Net.IsPlain s.name)
    (hrun : Runs c (c.apply d) .fresh m (.ok report) s' m') : Keeps d.name s m'.committed := by
  have hunwanted := hd.not_wanted hno
  obtain ⟨x, rfl, hx⟩ := h.remote
  obtain ⟨changed, cfg, s₁, hensure, rfl⟩ := afterPass_of_apply hc hm hrun
  have hcopy : m.opening.staged.get? (nextTransaction m).id = some m.committed :=
    Memory.get?_opening rfl
  -- The server is still there when all that is wanted has been ensured.
  obtain ⟨_, hmakes⟩ := hensure.makes
  obtain ⟨_, _, _, _, _, _, cfg₂, _, _, _, hsync, _, hs₂, hserves, _⟩ :=
    of_ensureBackend hc hd hx rfl hcopy hmakes
  obtain ⟨_, _, _, _, cfg₃, _, _, _, hdelete, hs₃, hserves₃⟩ :=
    of_syncServers hc hd.name hd.servers hserves h.distinct hs₂ Memory.get?_staging hsync
  obtain ⟨_, _, _, hothers⟩ := ensured_foldl h.distinct hd.distinct
  -- What is deleted then has a plain name.
  have hkeeps : Keeps d.name s cfg₃ := keeps_of_serves hserves₃ (hothers s hs hunwanted)
  obtain ⟨cfg₄, hm', hkept⟩ :=
    hkeeps.deleteServers hc hno hs₃ Memory.get?_staging hdelete.runs
  rw [Memory.staging_staging, Memory.staging_staging] at hm'
  obtain rfl := Memory.staging_injective hm'
  cases changed with
  | true => exact hkept
  | false =>
    obtain ⟨_, hnone⟩ | ⟨_, _, _, hserves₀⟩ := h.definition
    · rw [hnone] at hs
      cases hs
    · exact keeps_of_serves hserves₀ hs

/-- A list of servers that was read was there. -/
theorem servers_of_listServers (hc : c.AtRoot) (hname : Net.IsPlain name) {s₀ s₁ : Session}
    (hs₀ : s₀.transaction = some t) (hcfg : m.staged.get? t.id = some cfg)
    (h : Runs c (c.listServers name) s₀ m (.ok ss) s₁ m') :
    ∃ js, cfg.servers.get? name = some js := by
  cases hjs : cfg.servers.get? name with
  | some js => exact ⟨js, rfl⟩
  | none =>
    have hplain : ∀ n ∈ ["backends", name, "servers"], Net.IsPlain n :=
      isPlain_backends hname (by decide)
    have hserve : Memory.onConfiguration cfg .get ["backends", name, "servers"] .null =
        (.notFound, cfg) := by
      simp [Memory.onConfiguration, Memory.onServers, hjs]
    obtain ⟨hr, _⟩ := h.unique (poses_list.runs hc (Memory.below?_address hc hplain)
      (by simp [scopedRequest]) hserve hs₀ hcfg)
    cases hr

/-- Whoever deletes servers does not only read. -/
theorem eq_nil_of_deleteServers {s₀ s₁ : Session} {sent : List Sent} {report' : ServerReport}
    {report : ServerReport} {names : List String} (hs₀ : s₀.transaction = some t)
    (h : Makes c (c.deleteServers name report names) s₀ m sent (.ok report') s₁ m')
    (hget : ∀ y ∈ sent, y.request.method = .get) : names = [] := by
  cases names with
  | nil => rfl
  | cons n names =>
    obtain ⟨sent₁, sent₂, _, _, _, rfl, hdelete, _⟩ := h.of_bind
    obtain ⟨reply, rfl, _⟩ := (poses_delete.conduct_open hs₀).1 hdelete.conduct
    cases hget _ List.mem_cons_self

/-- A pass that finds nothing to do only reads between opening its transaction and closing it. -/
theorem Rests.reads (hc : c.AtRoot) (hm : m.HasRoom) (h : Rests c d m) :
    ∃ sent report s' m', Makes c (c.ensureBackend d) (.begun (nextTransaction m)) m.opening sent
        (.ok report) s' m' ∧ ∀ y ∈ sent, y.request.method = .get := by
  obtain ⟨_, report, _, _, hmakes, _, hwrites, _⟩ := h
  obtain ⟨sent, s₁, m₁, hensure, hall⟩ := makes_of_apply hc hm hmakes
  -- The two writes are those that open and close the transaction.
  refine ⟨sent, report, s₁, m₁, hensure, writes_eq_nil.1 (List.length_eq_zero_iff.1 ?_)⟩
  have hlength := congrArg List.length (hall.symm.trans hwrites)
  simpa using hlength

/-- Where a server is kept that is not wanted a pass does not find nothing to do. -/
theorem not_rests_of_keeps (hc : c.AtRoot) (hd : d.IsPlain) (hm : m.HasRoom)
    (h : Keeps d.name s m.committed) (hs : s.name ∉ d.wireServers.map (·.name)) :
    ¬ Rests c d m := by
  intro hrests
  obtain ⟨_, _, _, _, hensure, hreads⟩ := hrests.reads hc hm
  have hcopy : m.opening.staged.get? (nextTransaction m).id = some m.committed :=
    Memory.get?_opening rfl
  obtain ⟨_, _, _, _, _, rfl, hdefinition, hrest⟩ := hensure.of_bind
  obtain ⟨hreads₁, hreads⟩ := List.forall_mem_append.1 hreads
  obtain ⟨rfl, hs₃⟩ := hdefinition.kept hc (staged_ensureDefinition _) rfl hcopy hreads₁
  obtain ⟨_, _, _, _, _, rfl, hchecks, hrest⟩ := hrest.of_bind
  obtain ⟨hreads₂, hreads⟩ := List.forall_mem_append.1 hreads
  obtain ⟨rfl, hs₄⟩ := hchecks.kept hc (staged_ensureHttpChecks _ _) hs₃ hcopy hreads₂
  obtain ⟨_, _, _, _, _, rfl, hsync, _⟩ := hrest.of_bind
  obtain ⟨hreads, _⟩ := List.forall_mem_append.1 hreads
  obtain ⟨_, _, _, _, _, rfl, hwanted, hrest⟩ := hsync.of_bind
  obtain ⟨hreads₃, hreads⟩ := List.forall_mem_append.1 hreads
  obtain ⟨rfl, hs₅⟩ := hwanted.kept hc (staged_ensureServers _ _ _) hs₄ hcopy hreads₃
  obtain ⟨_, _, ss, _, _, rfl, hlist, hdelete⟩ := hrest.of_bind
  obtain ⟨_, hreads⟩ := List.forall_mem_append.1 hreads
  -- The list that was read has the server, which is deleted then.
  obtain ⟨js, hjs⟩ := servers_of_listServers hc hd.name hs₅ hcopy hlist.runs
  obtain ⟨ss', hkept, hmem⟩ := h js hjs
  obtain ⟨hss, rfl, _⟩ := hlist.runs.unique
    (works_listServers hc hd.name ⟨js, hjs, hkept⟩ _ _ hs₅ hcopy)
  cases hss
  rw [Session.marked_false] at hdelete
  have hnone := eq_nil_of_deleteServers hs₅ hdelete hreads
  refine List.filter_eq_nil_iff.1 hnone s.name (List.mem_map_of_mem hmem) ?_
  simpa using hs

/-- After a pass that went well the next one finds nothing to do just if all servers that were there
before could be named. -/
theorem rests_iff_isPlain (hc : c.AtRoot) (hd : d.IsPlain) (hm : m.HasRoom)
    (hversion : m.version + 1 < 0x8000000000000000) (h : Manageable d.name m.committed stored)
    (hrun : Runs c (c.apply d) .fresh m (.ok report) s' m') :
    Rests c d m' ↔ ∀ x ∈ stored, Net.IsPlain x.name := by
  obtain ⟨changed, cfg, _, _, hm'⟩ := afterPass_of_apply hc hm hrun
  have hroom : m'.HasRoom := hm' ▸ hasRoom_afterPass hm hversion changed cfg
  constructor
  · intro hrests x hx
    by_contra hno
    have hkept := keeps_of_apply hc hd hm h hx hno hrun
    exact not_rests_of_keeps hc hd hroom hkept (hd.not_wanted hno) hrests
  · intro hplain
    obtain ⟨_, _, hruns, hconverged⟩ := runs_apply hc hd hm h hplain
    obtain ⟨_, _, rfl⟩ := hrun.unique hruns
    exact rests_of_settled hc hd hroom hconverged.settled

end

end DataPlane.Client
end ProxySync
