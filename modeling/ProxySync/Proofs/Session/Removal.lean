import ProxySync.Proofs.Session.Difference
import ProxySync.Proofs.Session.Spared
/-!
# Removing a backend

A teardown removes a backend of this program with all its parts and leaves every other one. It
leaves a backend of others as it is and says so, and where there is none it has nothing to do, so
that a second teardown finds nothing. Whatever becomes of it, no transaction stays open.

A teardown undoes an application, unless a wanted server goes by a name that leads to the section
itself. What is written for that server takes the place of the section, which is no longer told as
one of this program then.

## Main definitions

* `Passes`: what can be seen of a pass that runs alone.
* `Configuration.IsFree`: nothing is kept under a name.
* `Configuration.Removable`: there is no such backend, or it is one of this program.
* `Configuration.KeptOrGone`: a definition stays as it is or goes.

## Main statements

* `Client.passes_teardown_absent`, `Client.passes_teardown_managed`,
  `Client.passes_teardown_foreign`: the three kinds of teardowns.
* `Client.removable_of_ensureBackend`: what is applied can be removed.
* `Client.tears_down`: what teardowns do, alone, twice, and after an application.
-/
namespace ProxySync
open DataPlane SessionM
open Simulation (Log Plane)
variable {α : Type} {c : Client} {t : Wire.Transaction} {m m' : Memory} {cfg cfg' : Configuration}
  {name : String}

/-- Run alone on the memory as a session of its own, whatever was logged before, the pass ends with
the result and makes these requests besides reading. It leaves the memory so, and no transaction of
its own open. -/
structure Passes (c : Client) (x : SessionM α) (m : Memory) (r : Except ClientError α)
    (requests : List Request) (m' : Memory) : Prop where
  runs : Runs c x .fresh m r .fresh m'
  made (log : Log) : Client.writes (Sent.ofTrace
    ((x.start .fresh).trace (Plane.answer c) (.holding m, log))) = requests
  closed : m'.staged = m.staged.erase m.nextId

/-- What a pass makes is what can be seen of it. -/
theorem Makes.passes {x : SessionM α} {sent : List Sent} {requests : List Request}
    {r : Except ClientError α} (h : Makes c x .fresh m sent r .fresh m')
    (hwrites : Client.writes sent = requests) (hclosed : m'.staged = m.staged.erase m.nextId) :
    Passes c x m r requests m' where
  runs := h.runs
  made log := by
    obtain ⟨_, _, htrace⟩ := h.trace_run log
    rw [htrace, hwrites]
  closed := hclosed

namespace DataPlane

namespace Configuration

/-- Nothing is kept under the name. -/
structure IsFree (name : String) (cfg : Configuration) : Prop where
  backends : cfg.backends.get? name = none
  servers : cfg.servers.get? name = none
  httpChecks : cfg.httpChecks.get? name = none

theorem isFree_without (name : String) (cfg : Configuration) : IsFree name (cfg.without name) := by
  constructor <;> simp [without]

/-- There is no such backend, or it is one of this program. -/
def Removable (name : String) (cfg : Configuration) : Prop :=
  cfg.backends.get? name = none ∨ ∃ b, cfg.Defines name b ∧ b.isManaged = true

/-- The definition of that name stays as it is or goes. -/
def KeptOrGone (name : String) (cfg cfg' : Configuration) : Prop :=
  cfg'.backends.get? name = cfg.backends.get? name ∨ cfg'.backends.get? name = none

theorem KeptOrGone.refl (name : String) (cfg : Configuration) : KeptOrGone name cfg cfg :=
  .inl rfl

theorem KeptOrGone.trans {cfg₁ cfg₂ cfg₃ : Configuration} (h : KeptOrGone name cfg₁ cfg₂)
    (h' : KeptOrGone name cfg₂ cfg₃) : KeptOrGone name cfg₁ cfg₃ := by
  obtain hkept | hgone := h'
  · rw [KeptOrGone, hkept]
    exact h
  · exact .inr hgone

theorem Removable.of_keptOrGone (h : Removable name cfg) (hkept : KeptOrGone name cfg cfg') :
    Removable name cfg' := by
  obtain hkept | hgone := hkept
  · simpa only [Removable, Defines, hkept] using h
  · exact .inl hgone

end Configuration

namespace Client

/-! ## Deleting a section -/

section
variable {s : Session} {b : Wire.Backend} (hc : c.AtRoot) (hname : Net.IsPlain name)
  (hs : s.transaction = some t) (hcfg : m.staged.get? t.id = some cfg)
include hc hname hs hcfg

theorem makes_deleteBackend_absent (habsent : cfg.backends.get? name = none) :
    ∃ sent, Makes c (c.deleteBackend name) s m sent (.ok .unchanged) s m ∧ writes sent = [] := by
  obtain ⟨sent, hget, hreads⟩ := reads_getBackend_absent hc hname habsent s m hs hcfg
  refine ⟨sent ++ [], hget.bind (.pure _ s m), ?_⟩
  rw [List.append_nil, writes_eq_nil.2 hreads]

theorem makes_deleteBackend_foreign (hb : cfg.Defines name b) (hforeign : b.isManaged = false) :
    ∃ sent, Makes c (c.deleteBackend name) s m sent (.error (.notManaged "backend" name)) s m ∧
      writes sent = [] := by
  obtain ⟨sent, hget, hreads⟩ := reads_getBackend hc hname hb s m hs hcfg
  refine ⟨sent ++ [], hget.bind ?_, ?_⟩
  · simp only [hforeign]
    exact .fail _ s m
  · rw [List.append_nil, writes_eq_nil.2 hreads]

theorem makes_deleteBackend_managed (hb : cfg.Defines name b) (hmanaged : b.isManaged = true) :
    ∃ sent, Makes c (c.deleteBackend name) s m sent (.ok .deleted) (s.marked true)
        (m.staging t.id (cfg.without name)) ∧
      writes sent = [.inside t.id .delete ["backends", name] none] := by
  obtain ⟨sent₁, hget, hreads⟩ := reads_getBackend hc hname hb s m hs hcfg
  have hserve : Memory.onConfiguration cfg .delete ["backends", name] .null =
      (.bare 204, cfg.without name) := by
    obtain ⟨j, hj, _⟩ := hb
    simp [Memory.onConfiguration, Memory.onBackends, Table.contains, hj, Configuration.without]
  have hworks : Works c t (c.delete ["backends", name] "delete backend" "backend") cfg .deleted true
      (cfg.without name) := works_delete hc (isPlain_backends hname (by simp)) (by simp) hserve
  obtain ⟨sent₂, hdelete⟩ := (hworks s m hs hcfg).makes
  refine ⟨sent₁ ++ sent₂, hget.bind ?_, ?_⟩
  · simp only [hmanaged]
    exact hdelete
  · obtain ⟨hwrites, _⟩ := writing_delete _ _ _ _ hs hdelete.conduct
    rw [writes_append, writes_eq_nil.2 hreads, hwrites]
    rfl

end

/-! ## The three kinds of teardowns -/

section
variable {b : Wire.Backend} (hc : c.AtRoot) (hm : m.HasRoom)
include hc hm

/-- A teardown that leaves the section as it is discards its transaction. -/
theorem passes_teardown_kept {r : Except ClientError Change}
    (h : ∃ sent, Makes c (c.deleteBackend name) (.begun (nextTransaction m)) m.opening sent r
      (.begun (nextTransaction m)) m.opening ∧ writes sent = []) :
    Passes c (c.teardown name) m (r.map fun _ => ())
      [openRequest (Int64.ofInt m.version), discardRequest (nextTransaction m)]
      (afterPass m false m.committed) := by
  obtain ⟨_, hdelete, hnone⟩ := h
  obtain ⟨_, hpass, hwrites⟩ := makes_pass_kept hc hm (fun _ => ()) hdelete
  rw [hnone] at hwrites
  exact Makes.passes (x := c.teardown name) hpass hwrites rfl

variable (hname : Net.IsPlain name)
include hname

/-- Where there is no such backend nothing is done. -/
theorem passes_teardown_absent (habsent : m.committed.backends.get? name = none) :
    Passes c (c.teardown name) m (.ok ())
      [openRequest (Int64.ofInt m.version), discardRequest (nextTransaction m)]
      (afterPass m false m.committed) :=
  passes_teardown_kept hc hm
    (makes_deleteBackend_absent hc hname rfl (Memory.get?_opening rfl) habsent)

/-- A backend of others is left as it is. -/
theorem passes_teardown_foreign (hb : m.committed.Defines name b)
    (hforeign : b.isManaged = false) :
    Passes c (c.teardown name) m (.error (.notManaged "backend" name))
      [openRequest (Int64.ofInt m.version), discardRequest (nextTransaction m)]
      (afterPass m false m.committed) :=
  passes_teardown_kept hc hm
    (makes_deleteBackend_foreign hc hname rfl (Memory.get?_opening rfl) hb hforeign)

/-- A backend of this program is deleted with all its parts. -/
theorem passes_teardown_managed (hb : m.committed.Defines name b) (hmanaged : b.isManaged = true) :
    Passes c (c.teardown name) m (.ok ())
      [openRequest (Int64.ofInt m.version), .inside m.nextId .delete ["backends", name] none,
        c.commitRequest (nextTransaction m)]
      (afterPass m true (m.committed.without name)) := by
  obtain ⟨_, hdelete, hone⟩ := makes_deleteBackend_managed (t := nextTransaction m) hc hname
    (s := .begun (nextTransaction m)) rfl (Memory.get?_opening rfl) hb hmanaged
  obtain ⟨_, hpass, hwrites⟩ := makes_pass hc hm (fun _ => ()) hdelete
  rw [hone] at hwrites
  exact Makes.passes (x := c.teardown name) hpass hwrites rfl

end

/-- A teardown of what can be removed goes well, and there is no such backend afterwards. -/
theorem ok_of_removable (hc : c.AtRoot) (hname : Net.IsPlain name) (hm : m.HasRoom)
    (h : m.committed.Removable name) {r : Except ClientError Unit} {requests : List Request}
    (hpass : Passes c (c.teardown name) m r requests m') :
    r = .ok () ∧ m'.committed.backends.get? name = none := by
  obtain habsent | ⟨b, hb, hmanaged⟩ := h
  · obtain ⟨rfl, _, rfl⟩ := hpass.runs.unique (passes_teardown_absent hc hm hname habsent).runs
    exact ⟨rfl, habsent⟩
  · obtain ⟨rfl, _, rfl⟩ :=
      hpass.runs.unique (passes_teardown_managed hc hm hname hb hmanaged).runs
    exact ⟨rfl, (Configuration.isFree_without name m.committed).backends⟩

/-! ## What an application leaves -/

/-- The requests that replace something go by plain names. -/
def ReplacesPlain (q : Request) : Prop := q.method = .put → ∀ n ∈ q.endpoint.segments, Net.IsPlain n

theorem replacesPlain_of_ne {q : Request} (h : q.method ≠ .put) : ReplacesPlain q :=
  fun hput => absurd hput h

theorem replacesPlain_ensureHttpChecks (hname : Net.IsPlain name) (wanted : List Wire.HttpCheck) :
    Only ReplacesPlain (c.ensureHttpChecks name wanted) :=
  only_ensureHttpChecks_of (replacesPlain_of_ne nofun)
    (fun _ _ _ _ _ => isPlain_backends hname (by decide)) wanted

theorem replacesPlain_syncServers (hname : Net.IsPlain name) {wanted : List Wire.Server}
    (hwanted : ∀ w ∈ wanted, Net.IsPlain w.name) :
    Only ReplacesPlain (c.syncServers name wanted) := by
  have hv : ReplacesPlain versionRequest := replacesPlain_of_ne nofun
  have hensure : ∀ w ∈ wanted, Only ReplacesPlain (c.ensureServer name w) := fun w hw =>
    only_ensureServer_of hv (fun _ => replacesPlain_of_ne nofun)
      (fun _ => replacesPlain_of_ne nofun)
      fun _ _ => isPlain_backends hname (by simpa using ⟨by decide, hwanted w hw⟩)
  exact (only_ensureServers_of hensure .empty).bind fun _ =>
    (poses_list.only hv fun _ => replacesPlain_of_ne nofun).bind fun _ =>
      only_deleteServers_of hv (fun _ _ => replacesPlain_of_ne nofun) _ _

end Client
end DataPlane

/-- A request about the parts of a backend that replaces only what goes by plain names leaves the
definition, or removes it. -/
theorem leaves_keptOrGone (hc : c.AtRoot) (hname : Net.IsPlain name) {q : Request}
    (h : q.AsksChecks name ∨ q.AsksServers name) (hput : Client.ReplacesPlain q)
    (hs : ScopedBy t q) : Leaves c t (Configuration.KeptOrGone name) q := by
  have harrives : ∃ path, Memory.below? .configuration (c.wire q).url.path = some path ∧
      Within name q.method path := by
    obtain h | h := h
    · obtain ⟨path, hpath, hwithin, _⟩ := arrives_checks hc (.inl hname) h hs
      exact ⟨path, hpath, landing_plain hname ▸ hwithin⟩
    · obtain ⟨path, hpath, hwithin⟩ := arrives_servers hc (.inl hname) h hs
      exact ⟨path, hpath, landing_plain hname ▸ hwithin⟩
  have hdeep : q.endpoint.segments.length ≠ 2 := by
    rcases h with h | h <;> cases h <;> first | (cases hs.2; done) | simp [Client.scopedRequest]
  obtain ⟨path, hpath, hwithin⟩ := harrives
  refine .of_arrival hc hs hpath hwithin.ne_version fun cfg => ?_
  obtain hkept | ⟨b, _, ⟨hcollection, hm, _⟩ | ⟨hsection, hm, _⟩⟩ | ⟨b, herased⟩ :=
    Configuration.backends_onConfiguration cfg q.method path (q.body.getD .null)
  · exact .inl (by rw [hkept])
  · -- Nothing is created but below the backend.
    cases hwithin with
    | collection hne => exact absurd hm hne
    | below => cases hcollection
  · -- What is replaced is found where it is named, which is below the section.
    have hsegments := Memory.below?_address hc (hput hm)
    rw [hs.1] at hsegments
    obtain rfl : q.endpoint.segments = path := Option.some.inj (hsegments.symm.trans hpath)
    exact absurd (congrArg List.length hsection) hdeep
  · rw [Configuration.KeptOrGone, herased, Table.get?_erase]
    split
    · exact .inr rfl
    · exact .inl rfl

/-- So does a step inside the transaction that makes only such requests. -/
theorem Runs.keptOrGone {x : SessionM α} {r : Except ClientError α} {s s₁ : Session}
    {m₁ : Memory} (h : Runs c x s m r s₁ m₁) (hc : c.AtRoot) (hname : Net.IsPlain name)
    (hstaged : Client.Staged t x)
    (hasks : Client.Only (fun q => q.AsksChecks name ∨ q.AsksServers name) x)
    (hreplaces : Client.Only Client.ReplacesPlain x) (hs : s.transaction = some t)
    (hcfg : m.staged.get? t.id = some cfg) :
    ∃ changed cfg', s₁ = s.marked changed ∧ m₁ = m.staging t.id cfg' ∧
      cfg.KeptOrGone name cfg' := by
  obtain ⟨sent, hconduct, hanswered⟩ := h.conduct
  have hstage := hstaged _ _ _ _ hs hconduct
  obtain ⟨cfg', hm, hkept⟩ := hanswered.copies (R := Configuration.KeptOrGone name) (.refl name)
    (·.trans ·) (fun y hy => leaves_keptOrGone hc hname (hasks _ _ _ _ hconduct y hy)
      (hreplaces _ _ _ _ hconduct y hy) (hstage.inScope y hy)) hcfg
  exact ⟨_, cfg', hstage.session, hm, hkept⟩

namespace DataPlane.Client
variable {d : Resolved} {report : SyncReport} {change : Change} {s s₁ : Session} {m₁ : Memory}
  {changed : Bool}

/-- A definition that can be dealt with is one of this program afterwards. -/
theorem owned_of_ensureDefinition (hc : c.AtRoot) {wanted : Wire.Backend}
    (hname : Net.IsPlain wanted.name) (hs : s.transaction = some t)
    (hcfg : m.staged.get? t.id = some cfg)
    (h : Runs c (c.ensureDefinition wanted) s m (.ok change) s₁ m₁) :
    ∃ changed cfg' b, s₁ = s.marked changed ∧ m₁ = m.staging t.id cfg' ∧
      cfg'.Defines wanted.name b ∧ b.isManaged = true ∧ (changed = false → cfg' = cfg) := by
  obtain ⟨_, _, _, hget, hrest⟩ := Runs.of_bind h
  obtain ⟨rfl, rfl, ⟨rfl, habsent⟩ | ⟨current, rfl, hcurrent⟩⟩ :=
    found_of_runs hc hname hs hcfg hget
  · obtain ⟨cfg', hworks, hdefines, _, _, hconf⟩ :=
      works_ensureDefinition_absent (t := t) hc hname habsent
    obtain ⟨_, rfl, rfl⟩ := h.unique (hworks _ _ hs hcfg)
    exact ⟨_, cfg', _, rfl, rfl, hdefines, isManaged_of_same (Wire.Backend.same_self _), hconf.kept⟩
  · cases hmanaged : current.isManaged with
    | false =>
      simp only [hmanaged] at hrest
      exact absurd hrest not_runs_fail
    | true =>
      obtain ⟨_, cfg', b, hworks, _, hdefines, hsame, _, _, hconf⟩ :=
        works_ensureDefinition_managed (t := t) hc hname hcurrent hmanaged
      obtain ⟨_, rfl, rfl⟩ := h.unique (hworks _ _ hs hcfg)
      exact ⟨_, cfg', b, rfl, rfl, hdefines, isManaged_of_same hsame, hconf.kept⟩

/-- What an application leaves can be removed, as long as what is wanted goes by plain names,
whatever was there before. -/
theorem removable_of_ensureBackend (hc : c.AtRoot) (hname : Net.IsPlain d.name)
    (hservers : ∀ w ∈ d.wireServers, Net.IsPlain w.name) (hcfg : m.staged.get? t.id = some cfg)
    (h : Runs c (c.ensureBackend d) (.begun t) m (.ok report)
      ((Session.begun t).marked changed) (m.staging t.id cfg')) :
    (if changed then cfg' else cfg).Removable d.name := by
  obtain ⟨_, _, _, hdefinition, hparts⟩ := Runs.of_bind h
  have hsection : Net.IsPlain d.wireBackend.name := hname
  obtain ⟨changed₁, cfg₁, b, rfl, rfl, hb, hmanaged, hkept⟩ :=
    owned_of_ensureDefinition hc hsection rfl hcfg hdefinition
  have howned : cfg₁.Removable d.name := .inr ⟨b, hb, hmanaged⟩
  -- What follows is about the check list and the servers.
  obtain ⟨changed₂, cfg₂, hs₂, hm₂, hkept₂⟩ := hparts.keptOrGone hc hname
    ((staged_ensureHttpChecks _ _).bind fun _ =>
      (staged_syncServers _ _).bind fun _ => staged_pure _)
    (((asks_ensureHttpChecks _ _).mono fun _ => .inl).bind fun _ =>
      ((asks_syncServers _ _).mono fun _ => .inr).bind fun _ => only_pure _)
    ((replacesPlain_ensureHttpChecks hname _).bind fun _ =>
      (replacesPlain_syncServers hname hservers).bind fun _ => only_pure _)
    rfl Memory.get?_staging
  rw [Memory.staging_staging] at hm₂
  obtain rfl := Memory.staging_injective hm₂
  cases changed with
  | true => exact howned.of_keptOrGone hkept₂
  | false =>
    have hdirty := congrArg Session.dirty hs₂
    have hno : changed₁ = false := by
      cases changed₁
      · rfl
      · cases hdirty
    rw [hkept hno] at howned
    exact howned

/-! ## One pass after another -/

/-- What can be seen of a teardown is what it makes of the configuration. -/
theorem removes_of_passes (hc : c.AtRoot) (hname : Net.IsPlain name) {r : Except ClientError Unit}
    {requests : List Request} (h : Passes c (c.teardown name) m r requests m') :
    Removes name m.committed r.isOk m'.committed := by
  obtain ⟨_, hconduct, hanswered⟩ := h.runs.conduct
  exact removes_of_commits hc hname (commits_teardown hc hconduct hanswered)

/-- A teardown ends, and leaves the memory as a pass does. -/
theorem exists_passes_teardown (hc : c.AtRoot) (hm : m.HasRoom) (name : String) :
    ∃ r requests changed cfg,
      Passes c (c.teardown name) m r requests (afterPass m changed cfg) := by
  obtain ⟨_, r, changed, cfg, hmakes⟩ := exists_makes hc m (staged_deleteBackend name)
  obtain ⟨_, hpass, hwrites⟩ := makes_pass hc hm (fun _ => ()) hmakes
  exact ⟨_, _, _, cfg, Makes.passes (x := c.teardown name) hpass hwrites rfl⟩

/-- An application ends, leaves the memory as a pass does, and leaves every other backend. The
backend itself can be removed then, if all went well or it could be removed before. -/
theorem exists_passes_apply (hc : c.AtRoot) (hm : m.HasRoom) (hname : Net.IsPlain d.name) :
    ∃ r requests changed cfg, Passes c (c.apply d) m r requests (afterPass m changed cfg) ∧
      (∀ n, n ≠ d.name → m.committed.SameAt n (afterPass m changed cfg).committed) ∧
      ((∀ w ∈ d.wireServers, Net.IsPlain w.name) → r.isOk = true ∨ m.committed.Removable d.name →
        (afterPass m changed cfg).committed.Removable d.name) := by
  obtain ⟨_, r, changed, cfg, hmakes⟩ := exists_makes hc m (staged_ensureBackend d)
  obtain ⟨_, hpass, hwrites⟩ := makes_pass hc hm id hmakes
  refine ⟨_, _, _, cfg, Makes.passes (x := c.apply d) hpass hwrites rfl, fun n => ?_,
    fun hservers h => ?_⟩
  · exact sameAt_of_apply hc hname (commits_apply hc hpass.conduct hpass.answered)
  · cases r with
    | ok report =>
      exact removable_of_ensureBackend hc hname hservers
        (Memory.get?_opening (t := nextTransaction m) rfl) hmakes.runs
    | error e => exact h.resolve_left nofun

/-! ## Teardowns -/

/-- Where there is no such backend a teardown changes nothing, a backend of this program it removes
with all its parts, and one of others it leaves as it is and says so. After a teardown that went
well another one finds nothing to do. An application and then a teardown leave every other backend,
and if what is wanted goes by plain names, none of that name, unless it is one of others. -/
theorem tears_down {c : Client} {name : String} {m : Memory} (hc : c.AtRoot)
    (hname : Net.IsPlain name) (hm : m.HasRoom) :
    (m.committed.backends.get? name = none →
      ∃ m', Passes c (c.teardown name) m (.ok ())
          [openRequest (Int64.ofInt m.version), discardRequest (nextTransaction m)] m' ∧
        m'.committed = m.committed ∧ m'.version = m.version) ∧
    (∀ b, m.committed.Defines name b → b.isManaged = true →
      ∃ m', Passes c (c.teardown name) m (.ok ())
          [openRequest (Int64.ofInt m.version), .inside m.nextId .delete ["backends", name] none,
            c.commitRequest (nextTransaction m)] m' ∧
        m'.committed.IsFree name ∧ (∀ n, n ≠ name → m.committed.SameAt n m'.committed) ∧
        m'.version = m.version + 1) ∧
    (∀ b, m.committed.Defines name b → b.isManaged = false →
      ∃ m', Passes c (c.teardown name) m (.error (.notManaged "backend" name))
          [openRequest (Int64.ofInt m.version), discardRequest (nextTransaction m)] m' ∧
        m'.committed = m.committed ∧ m'.version = m.version) ∧
    (m.version + 1 < 0x8000000000000000 →
      (∀ requests m', Passes c (c.teardown name) m (.ok ()) requests m' →
        ∃ m'', Passes c (c.teardown name) m' (.ok ())
            [openRequest (Int64.ofInt m'.version), discardRequest (nextTransaction m')] m'' ∧
          m''.committed = m'.committed ∧ m''.version = m'.version) ∧
      ∀ d : Resolved, d.name = name →
        ∃ r₁ requests₁ m₁ r₂ requests₂ m₂, Passes c (c.apply d) m r₁ requests₁ m₁ ∧
          Passes c (c.teardown name) m₁ r₂ requests₂ m₂ ∧
          (∀ n, n ≠ name → m.committed.SameAt n m₂.committed) ∧
          ((∀ w ∈ d.wireServers, Net.IsPlain w.name) →
            r₁.isOk = true ∨ m.committed.Removable name →
            r₂ = .ok () ∧ m₂.committed.backends.get? name = none)) := by
  refine ⟨fun habsent => ?_, fun b hb hmanaged => ?_, fun b hb hforeign => ?_, fun hversion =>
    ⟨fun requests m' h => ?_, fun d hd => ?_⟩⟩
  · exact ⟨_, passes_teardown_absent hc hm hname habsent, rfl, rfl⟩
  · exact ⟨_, passes_teardown_managed hc hm hname hb hmanaged, Configuration.isFree_without _ _,
      fun _ => Configuration.sameAt_without _, rfl⟩
  · exact ⟨_, passes_teardown_foreign hc hm hname hb hforeign, rfl, rfl⟩
  · obtain ⟨_, _, changed, cfg, htorn⟩ := exists_passes_teardown hc hm name
    obtain ⟨_, _, rfl⟩ := h.runs.unique htorn.runs
    have habsent := (removes_of_passes hc hname h).absent rfl
    have hroom := hasRoom_afterPass hm hversion changed cfg
    exact ⟨_, passes_teardown_absent hc hroom hname habsent, rfl, rfl⟩
  · subst hd
    obtain ⟨r₁, requests₁, changed, cfg, happlied, hsame, hremovable⟩ :=
      exists_passes_apply hc hm hname
    have hroom := hasRoom_afterPass hm hversion changed cfg
    obtain ⟨r₂, requests₂, _, _, htorn⟩ := exists_passes_teardown hc hroom d.name
    have hremoves := removes_of_passes hc hname htorn
    refine ⟨r₁, requests₁, _, r₂, requests₂, _, happlied, htorn,
      fun n hn => (hsame n hn).trans (hremoves.spares (.inl hn)), fun hservers h => ?_⟩
    exact ok_of_removable hc hname hroom (hremovable hservers h) htorn

/-- A case of it: a backend of this program with a server is removed, and a second teardown finds
nothing to do. -/
theorem tears_down_shop :
    let c := onThisHost 5555 "admin" "secret"
    let m := Memory.ofConfiguration 1 (serving shop.wireBackend [stale "b"])
    ∃ m' m'', Passes c (c.teardown "shop") m (.ok ())
        [openRequest 1, .inside "tx-1" .delete ["backends", "shop"] none,
          c.commitRequest { id := "tx-1", version := 1, status := "in_progress" }] m' ∧
      m'.committed.IsFree "shop" ∧ m'.version = 2 ∧
      Passes c (c.teardown "shop") m' (.ok ())
        [openRequest (Int64.ofInt m'.version), discardRequest (nextTransaction m')] m'' := by
  intro c m
  have hroom : m.HasRoom := ⟨by decide, by decide⟩
  have hat : Remote.IsAt ⟨some shop.wireBackend.stamped, [], [stale "b"]⟩ "shop" m.committed :=
    isAt_serving shop.wireBackend (by decide)
  have hnext : nextTransaction m = { id := "tx-1", version := 1, status := "in_progress" } := by
    decide
  have hshop : Net.IsPlain "shop" := by decide
  have htears := tears_down (atRoot_onThisHost 5555 "admin" "secret") hshop hroom
  obtain ⟨m', hfirst, hfree, _, hversion⟩ := htears.2.1 _ hat.definition.1 (by decide)
  have hid : m.nextId = "tx-1" := congrArg Wire.Transaction.id hnext
  rw [hnext, hid] at hfirst
  obtain ⟨m'', hsecond, _⟩ := (htears.2.2.2 (by decide)).1 _ m' hfirst
  exact ⟨m', m'', hfirst, hfree, hversion, hsecond⟩

/-- A shop whose only server is called by a step up the hierarchy, but for a tab. -/
def shopStepUp : Resolved :=
  { shop with
    servers :=
      [{ name := "\t..", address := "10.0.0.1", port := none, id := none, check := none }] }

/-- Where a wanted server is called by a step up, but for a tab, it takes the place of the section
that was just created. The application goes well, but the backend cannot be removed any more. -/
theorem not_tears_down_step_up :
    let c := onThisHost 5555 "admin" "secret"
    let m := Memory.ofConfiguration 1 .empty
    let applied := ((c.apply shopStepUp).start .fresh).run (Plane.answer c) (.holding m, [])
    let torn := ((c.teardown "shop").start .fresh).run (Plane.answer c) applied.2
    c.AtRoot ∧ Net.IsPlain "shop" ∧ m.HasRoom ∧ m.committed.backends.get? "shop" = none ∧
    applied.1.1.isOk = true ∧ torn.1.1 = .error (.notManaged "backend" "shop") ∧
    torn.2.1.memory.any (·.committed.backends.contains "shop") = true := by
  refine ⟨atRoot_onThisHost 5555 "admin" "secret", by decide, ⟨by decide, by decide⟩, by decide, ?_⟩
  decide +kernel

end DataPlane.Client
end ProxySync
