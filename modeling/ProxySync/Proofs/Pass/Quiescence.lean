import ProxySync.Proofs.Pass.Gating
import ProxySync.Proofs.Resource.Condition
import ProxySync.Proofs.Session.Settled
/-!
# Passes come to rest

After a pass that synced a resource the next pass finds nothing to do, unless a server was there
that cannot be named: then there is no rest, however many passes follow.

## Main definitions

* `Store.Persists`: a store that keeps what it is given.
* `Membership.IsSteady`: look-ups whose answers stay the same.
* `Resource.Backend.IsNoted`: a resource that carries what a pass leaves on it.
* `Pass.Quiescent`: a pass that only looked.

## Main statements

* `Pass.Course.isNoted`: what a pass that synced leaves on the resource.
* `Pass.quiescent_iff_isPlain`: the next pass only looks just if all servers could be named.
-/
namespace ProxySync
open DataPlane.Client (Rests)

/-! ## Steady partners -/

/-- Answers that do not depend on the state make the results so. -/
theorem Dialogue.run_steady {I : Interface} {α σ : Type} {env : Environment I σ}
    (h : ∀ call s s', (env call s).1 = (env call s').1) (d : Dialogue I α) (s s' : σ) :
    (d.run env s).1 = (d.run env s').1 := by
  induction d generalizing s s' with
  | done a => rfl
  | ask call next ih =>
    rw [run_ask, run_ask, h call s s']
    exact ih _ _ _

/-- The answers of the look-ups stay the same. -/
def Membership.IsSteady {τ : Type} (members : Environment Membership.interface τ) : Prop :=
  ∀ call t t', (members call t).1 = (members call t').1

namespace Resource.Backend

/-- Both ask for the same. -/
structure AsksSame (b b' : Backend) : Prop where
  spec : b'.spec = b.spec
  generation : b'.metadata.generation = b.metadata.generation
  deleting : b'.isDeleting = b.isDeleting

theorem AsksSame.trans {b₁ b₂ b₃ : Backend} (h : AsksSame b₁ b₂) (h' : AsksSame b₂ b₃) :
    AsksSame b₁ b₃ :=
  ⟨h'.spec.trans h.spec, h'.generation.trans h.generation, h'.deleting.trans h.deleting⟩

/-- The resource is to stay, carries the finalizer, and its status tells that it is in agreement. -/
structure IsNoted (b : Backend) : Prop where
  staying : b.isDeleting = false
  attached : b.hasFinalizer = true
  told : ∃ st, b.status = some st ∧ st.IsDistinct ∧
    st.Tells b.metadata.generation (Pass.agreement b)

/-- There is nothing to write to the status of a resource that is noted. -/
theorem IsNoted.pending {b : Backend} (h : b.IsNoted) (now : String) :
    (Pass.draft now b (Pass.agreement b)).pending = none := by
  obtain ⟨st, hst, hdistinct, htells⟩ := h.told
  have hunchanged := (Resource.StatusDraft.hasChanges_report now
    (by simpa [hst] using hdistinct)).2 ⟨st, hst, htells⟩
  rw [Pass.draft, Resource.StatusDraft.pending, hunchanged]
  rfl

end Resource.Backend

open Resource (Backend)

/-- The store tells what it holds under the key, and a finalizer that it attaches and a status that
it writes there stay. -/
structure Store.Persists {σ : Type} (store : Environment Store.interface σ) (key : Key)
    (held : σ → Option Backend) : Prop where
  told : ∀ s, (store (.get key) s).1 = .ok (held s)
  reading : ∀ s, held (store (.get key) s).2 = held s
  publishing : ∀ s b remark, held (store (.publish b remark) s).2 = held s
  attaching : ∀ s b b₀, b.metadata.key = key → held s = some b₀ →
    (store (.addFinalizer b) s).1 = .ok () →
    ∃ b₁, held (store (.addFinalizer b) s).2 = some b₁ ∧ b₀.AsksSame b₁ ∧
      b₁.hasFinalizer = true ∧ b₁.status = b₀.status
  writing : ∀ s b b₀ status, b.metadata.key = key → held s = some b₀ →
    (store (.patchStatus b status) s).1 = .ok () →
    ∃ b₁, held (store (.patchStatus b status) s).2 = some b₁ ∧ b₀.AsksSame b₁ ∧
      b₁.hasFinalizer = b₀.hasFinalizer ∧ b₁.status = some status

namespace Pass
variable {σ τ : Type} {store : Environment Store.interface σ}
  {members : Environment Membership.interface τ} {c : DataPlane.Client} {key : Key}
  {held : σ → Option Backend} {b b₀ : Backend} {now : String} {s s' : σ} {t t' : τ}

/-! ## What a pass leaves on the resource -/

section Noted
variable {υ : Type} {plane : Environment DataPlane.interface υ} {u : υ} {w' : σ × τ × υ}
  {calls : List ((σ × τ × υ) × Store.Call)} {asked : List (Exchange DataPlane.interface)}
  {report : SyncReport} (hstore : Store.Persists store key held) (hkey : b.metadata.key = key)
include hstore hkey

theorem Attaches.persists (h : Attaches store b t u s calls (.ok ()) s') (hheld : held s = some b) :
    ∃ b₁, held s' = some b₁ ∧ b.AsksSame b₁ ∧ b₁.hasFinalizer = true ∧ b₁.status = b.status := by
  obtain ⟨hattached, _, rfl⟩ | ⟨_, hadd, _⟩ := h.of_ok
  · exact ⟨b, hheld, ⟨rfl, rfl, rfl⟩, hattached, rfl⟩
  · have hkept := hstore.attaching s b b hkey hheld
    rw [hadd] at hkept
    exact hkept rfl

/-- After a status was written, if there was anything to write, the stored one tells of it. -/
theorem Writes.persists {r : Resource.Condition.Report}
    (h : Writes store b (draft now b r) t u s calls (.ok ()) s') (hheld : held s = some b₀)
    (hstatus : b₀.status = b.status) (hdistinct : ∀ st ∈ b.status, st.IsDistinct) :
    ∃ b₁, held s' = some b₁ ∧ b₀.AsksSame b₁ ∧ b₁.hasFinalizer = b₀.hasFinalizer ∧
      ∃ st, b₁.status = some st ∧ st.IsDistinct ∧ st.Tells b.metadata.generation r := by
  obtain ⟨hnone, _, rfl⟩ | ⟨status, hsome, hwrite⟩ := h.of_ok
  · have hno : (draft now b r).hasChanges = false := by
      simpa [Resource.StatusDraft.pending] using hnone
    obtain ⟨st, hst, htells⟩ := (Resource.StatusDraft.hasChanges_report now hdistinct).1 hno
    exact ⟨b₀, hheld, ⟨rfl, rfl, rfl⟩, rfl, st, hstatus.trans hst, hdistinct st hst, htells⟩
  · obtain rfl : (draft now b r).current = status := by
      simp only [Resource.StatusDraft.pending, Option.ite_none_right_eq_some,
        Option.some.injEq] at hsome
      exact hsome.2
    have hkept := hstore.writing s b b₀ (draft now b r).current hkey hheld
    rw [hwrite] at hkept
    obtain ⟨b₁, hheld₁, hsame, hattached, hwritten⟩ := hkept rfl
    exact ⟨b₁, hheld₁, hsame, hattached, _, hwritten,
      Resource.StatusDraft.isDistinct_report hdistinct, Resource.StatusDraft.tells_report ..⟩

/-- After a pass that synced it the resource is noted, and asks for the same. -/
theorem Course.isNoted (hheld : held s = some b) (hdistinct : ∀ st ∈ b.status, st.IsDistinct)
    (h : Course store members plane now c key s t u calls asked (.ok (.synced report)) w') :
    ∃ b₁, held w'.1 = some b₁ ∧ b.AsksSame b₁ ∧ b₁.IsNoted ∧
      Synchronizes members plane c key b t u asked (.ok report) w'.2.1 w'.2.2 := by
  generalize hr : (Except.ok (.synced report) : Except PassError PassOutcome) = r at h
  cases h with
  | unread | absent | released | kept | undetached | finalized | failed | unattached => cases hr
  | @settled b' s₁ s₂ s₃ report' r t' u' _ _ _ read staying synchronize attach reports =>
    have htold := hstore.told s
    rw [read, hheld] at htold
    cases htold
    cases r with
    | error e => cases hr
    | ok _ =>
      cases hr
      have hheld₁ : held s₁ = some b := by
        rw [← hheld, ← hstore.reading s, read]
      obtain ⟨b₁, hheld₂, hsame₁, hattached, hstatus₁⟩ := attach.persists hstore hkey hheld₁
      have hnoted {calls s₀} (hheld₀ : held s₀ = some b₁)
          (hwrites : Writes store b (draft now b (agreement b)) t' u' s₀ calls (.ok ()) s₃) :
          ∃ b₁, held s₃ = some b₁ ∧ b.AsksSame b₁ ∧ b₁.IsNoted := by
        obtain ⟨b₂, hheld₃, hsame₂, hattached₂, st, hst, hd, htells⟩ :=
          hwrites.persists hstore hkey hheld₀ hstatus₁ hdistinct
        have hsame := hsame₁.trans hsame₂
        refine ⟨b₂, hheld₃, hsame, hsame.deleting.trans staying, hattached₂.trans hattached, st,
          hst, hd, ?_⟩
        rw [hsame.generation, agreement, hsame.spec]
        exact htells
      cases reports with
      | quiet _ status =>
        obtain ⟨b₂, hheld₃, hsame, hb₂⟩ := hnoted hheld₂ status
        exact ⟨b₂, hheld₃, hsame, hb₂, synchronize⟩
      | event _ status =>
        obtain ⟨b₂, hheld₃, hsame, hb₂⟩ :=
          hnoted ((hstore.publishing _ _ _).trans hheld₂) status
        exact ⟨b₂, hheld₃, hsame, hb₂, synchronize⟩

end Noted

/-! ## Passes that only look -/

open Simulation (Log Plane)
open DataPlane.Client (writes openRequest discardRequest nextTransaction)

/-- The pass ends well and reports no change. Of the store it only reads the resource. Of the Data
Plane, which holds that memory before, it only reads, but for a transaction that it discards, and
the version and what is committed stay. -/
structure Quiescent (key : Key) (m : DataPlane.Memory) (p : Seen σ τ (Plane × Log)) : Prop where
  result : ∃ report, p.result = .ok (.synced report) ∧ report.hasChanges = false
  calls : p.calls.map (·.2) = [.get key]
  writes : writes (Sent.ofTrace p.asked) =
    [openRequest (Int64.ofInt m.version), discardRequest (nextTransaction m)]
  kept : ∃ m', p.after.2.2.1 = .holding m' ∧ m'.version = m.version ∧ m'.committed = m.committed

theorem eq_ok_of_mapError {ε ε' α : Type} {f : ε → ε'} {x : Except ε α} {a : α}
    (h : x.mapError f = .ok a) : x = .ok a := by
  cases x with
  | error e => cases h
  | ok _ =>
    cases h
    rfl

section Quiescent

variable {d : Resolved} {desired : Desired} {m : DataPlane.Memory} {log : Log}
  {w' : σ × τ × Plane × Log} {calls : List ((σ × τ × Plane × Log) × Store.Call)}
  {asked : List (Exchange DataPlane.interface)} {r : Except PassError PassOutcome}
  (hvalid : b.spec.validate key.ns = .ok desired)
  (hresolve : (desired.resolve.run.run members t).1 = .ok d)
include hvalid hresolve

/-- What is applied for the resource is what it resolves to. -/
theorem Synchronizes.applied_of {υ : Type} {plane : Environment DataPlane.interface υ} {u u' : υ}
    {r : Except PassError SyncReport} (h : Synchronizes members plane c key b t u asked r t' u') :
    asked = ((c.apply d).start .fresh).trace plane u ∧
      r = (((c.apply d).start .fresh).run plane u).1.1.mapError .client ∧
      u' = (((c.apply d).start .fresh).run plane u).2 := by
  cases h with
  | invalid validate => cases hvalid.symm.trans validate
  | unresolved validate resolve =>
    cases hvalid.symm.trans validate
    rw [resolve] at hresolve
    cases hresolve
  | applied validate resolve =>
    cases hvalid.symm.trans validate
    rw [resolve] at hresolve
    cases hresolve
    exact ⟨rfl, rfl, rfl⟩

/-- Where the resource is noted and the session finds nothing to do, nor does the pass. -/
theorem quiescent_of_rests (hget : (store (.get key) s).1 = .ok (some b)) (hb : b.IsNoted)
    (hrests : Rests c d m)
    (h : Course store members (Plane.answer c) now c key s t (.holding m, log) calls asked r w') :
    Quiescent key m ⟨(s, t, (.holding m, log)), calls, asked, r, w'⟩ := by
  obtain ⟨sent, report, _, m', hmakes, hno, hwrites, hversion, hcommitted⟩ := hrests
  obtain ⟨log', hrun, rfl⟩ := hmakes.trace_run log
  cases h with
  | unread read | absent read =>
    rw [read] at hget
    cases hget
  | released read deleting | kept read deleting | undetached read deleting
  | finalized read deleting =>
    rw [read] at hget
    cases hget
    rw [hb.staying] at deleting
    cases deleting
  | failed read _ synchronize =>
    rw [read] at hget
    cases hget
    obtain ⟨_, hr, _⟩ := synchronize.applied_of hvalid hresolve
    rw [hrun] at hr
    cases hr
  | unattached read _ _ missing =>
    rw [read] at hget
    cases hget
    rw [hb.attached] at missing
    cases missing
  | settled read _ synchronize attach reports =>
    rw [read] at hget
    cases hget
    obtain ⟨rfl, hr, rfl⟩ := synchronize.applied_of hvalid hresolve
    rw [hrun] at hr ⊢
    cases hr
    obtain ⟨_, rfl, rfl⟩ | ⟨missing, _⟩ := attach.of_ok
    · cases reports with
      | event changed =>
        rw [hno] at changed
        cases changed
      | quiet _ status =>
        cases status with
        | same => exact ⟨⟨_, rfl, hno⟩, rfl, hwrites, m', rfl, hversion, hcommitted⟩
        | written pending =>
          rw [hb.pending now] at pending
          cases pending
    · rw [hb.attached] at missing
      cases missing

/-- Where a pass finds nothing to do, nor does its session. -/
theorem rests_of_quiescent (hget : (store (.get key) s).1 = .ok (some b))
    (h : Course store members (Plane.answer c) now c key s t (.holding m, log) calls asked r w')
    (hquiescent : Quiescent key m ⟨(s, t, (.holding m, log)), calls, asked, r, w'⟩) :
    Rests c d m := by
  obtain ⟨⟨report, hr, hno⟩, _, hwrites, m', hholding, hversion, hcommitted⟩ := hquiescent
  obtain ⟨m'', log', hafter, hmakes⟩ :=
    Makes.of_run c (c.apply d) .fresh m log
  cases h with
  | unread | absent | released | kept | undetached | finalized | failed | unattached => cases hr
  | @settled _ _ _ _ report' r _ _ _ _ _ read _ synchronize =>
    rw [read] at hget
    cases hget
    obtain ⟨rfl, hok, rfl⟩ := synchronize.applied_of hvalid hresolve
    obtain rfl : report' = report := by
      cases r with
      | error e => cases hr
      | ok _ =>
        cases hr
        rfl
    rw [eq_ok_of_mapError hok.symm] at hmakes
    obtain rfl : m' = m'' := by
      have heq := hholding.symm.trans (congrArg Prod.fst hafter)
      simpa [Plane.holding] using heq
    exact ⟨_, report', _, m', hmakes, hno, hwrites, hversion, hcommitted⟩

end Quiescent

/-! ## The pass after one that synced -/

section Next
variable {desired : Desired} {d : Resolved} {m : DataPlane.Memory} {log : Log}
  {index : ServiceIndex} {report : SyncReport} {first : Seen σ τ (Plane × Log)}

/-- After a pass that synced a resource the next pass over it only looks just if the next session
finds nothing to do. -/
theorem quiescent_iff_rests (hstore : Store.Persists store key held)
    (hmembers : Membership.IsSteady members) (hheld : held s = some b) (hkey : b.metadata.key = key)
    (hdistinct : ∀ st ∈ b.status, st.IsDistinct) (hvalid : b.spec.validate key.ns = .ok desired)
    (hresolve : (desired.resolve.run.run members t).1 = .ok d)
    (hfirst : see store members (Plane.answer c) c key now index (s, t, .holding m, log) = first)
    (hsynced : first.result = .ok (.synced report)) :
    ∃ m' session, first.after.2.2.1 = .holding m' ∧
      Runs c (c.apply d) .fresh m (.ok report) session m' ∧
      ∀ now' index' s' t' log', held s' = held first.after.1 →
        (Quiescent key m' (see store members (Plane.answer c) c key now' index'
          (s', t', .holding m', log')) ↔ Rests c d m') := by
  subst hfirst
  have hcourse := course_reconcile store members (Plane.answer c) now c key index s t
    (.holding m, log)
  have hresult : ((start (reconcile now c key) index).run (beside store members (Plane.answer c))
      (s, t, .holding m, log)).1.1 = .ok (.synced report) := hsynced
  rw [hresult] at hcourse
  obtain ⟨b₁, hheld', hsame, hnoted, hsync⟩ := hcourse.isNoted hstore hkey hheld hdistinct
  obtain ⟨_, hreport, hplane⟩ := hsync.applied_of hvalid hresolve
  obtain ⟨m', log', hafter, hmakes⟩ := Makes.of_run c (c.apply d) .fresh m log
  rw [eq_ok_of_mapError hreport.symm] at hmakes
  refine ⟨m', _, congrArg Prod.fst (hplane.trans hafter), hmakes.runs,
    fun now' index' s' t' log' hs' => ?_⟩
  -- The next pass finds what the first one left, and applies the same.
  have hvalid' : b₁.spec.validate key.ns = .ok desired := by rw [hsame.spec, hvalid]
  have hresolve' : (desired.resolve.run.run members t').1 = .ok d :=
    (Dialogue.run_steady hmembers _ _ _).trans hresolve
  have hget' : (store (.get key) s').1 = .ok (some b₁) := by
    rw [hstore.told, hs']
    exact congrArg Except.ok hheld'
  have hcourse' := course_reconcile store members (Plane.answer c) now' c key index' s' t'
    (.holding m', log')
  exact ⟨rests_of_quiescent hvalid' hresolve' hget' hcourse',
    fun hrests => quiescent_of_rests hvalid' hresolve' hget' hnoted hrests hcourse'⟩

open DataPlane.Client in
/-- After a pass that synced a resource the next one, whenever it comes, only looks, just if all
servers that were there before the first one could be named. In between the store may change
elsewhere, but the resource stays as the first pass left it. -/
theorem quiescent_iff_isPlain (hc : c.AtRoot) (hstore : Store.Persists store key held)
    (hmembers : Membership.IsSteady members) (hheld : held s = some b) (hkey : b.metadata.key = key)
    (hdistinct : ∀ st ∈ b.status, st.IsDistinct) (hvalid : b.spec.validate key.ns = .ok desired)
    (hresolve : (desired.resolve.run.run members t).1 = .ok d) (hd : d.IsPlain) (hm : m.HasRoom)
    (hversion : m.version + 1 < 0x8000000000000000) {stored : List Wire.Server}
    (h : Manageable d.name m.committed stored)
    (hfirst : see store members (Plane.answer c) c key now index (s, t, .holding m, log) = first)
    (hsynced : first.result = .ok (.synced report)) :
    ∃ m', first.after.2.2.1 = .holding m' ∧
      ∀ now' index' s' t' log', held s' = held first.after.1 →
        (Quiescent key m' (see store members (Plane.answer c) c key now' index'
          (s', t', .holding m', log')) ↔ ∀ x ∈ stored, Net.IsPlain x.name) := by
  obtain ⟨m', _, hholding, hrun, hnext⟩ :=
    quiescent_iff_rests hstore hmembers hheld hkey hdistinct hvalid hresolve hfirst hsynced
  refine ⟨m', hholding, fun now' index' s' t' log' hs' => ?_⟩
  exact (hnext now' index' s' t' log' hs').trans (rests_iff_isPlain hc hd hm hversion h hrun)

end Next

/-! ## A store in memory -/

open Simulation (Backends)

/-- A store in tables, none of whose calls fail. -/
def tables : Environment Store.interface Backends := fun call s => s.perform call

theorem hasFinalizer_withFinalizers (b : Backend) (front : List String) :
    (Backends.withFinalizers b (front ++ [Backend.finalizer])).hasFinalizer = true := by
  simp [Backend.hasFinalizer, Backends.withFinalizers, Kube.Meta.finalizerList]

theorem persists_tables (key : Key) : Store.Persists tables key (·.resources.get? key) where
  told _ := rfl
  reading _ := rfl
  publishing _ _ _ := rfl
  attaching s b b₀ hkey hb₀ _ := by
    refine ⟨Backends.withFinalizers b₀ (b₀.metadata.finalizerList ++ [Backend.finalizer]), ?_,
      ⟨rfl, rfl, rfl⟩, hasFinalizer_withFinalizers _ _, rfl⟩
    simp [tables, Backends.perform, Backends.change, hkey, hb₀]
  writing s b b₀ status hkey hb₀ _ := by
    refine ⟨{ b₀ with status := some status }, ?_, ⟨rfl, rfl, rfl⟩, rfl, rfl⟩
    simp [tables, Backends.perform, Backends.change, hkey, hb₀]

/-- Look-ups that find nothing. -/
def nowhere : Environment Membership.interface Unit :=
  fun call t => (Simulation.Members.empty.lookUp call, t)

theorem isSteady_nowhere : Membership.IsSteady nowhere := fun _ _ _ => rfl

section Shop
open DataPlane.Client DataPlane

/-- The resource of a shop, as it is first stored. -/
def theShop : Backend := created ⟨"default", "web"⟩ shopSpec

/-- Tables with that resource alone. -/
def withShop : Backends :=
  { resources := .ofList [(⟨"default", "web"⟩, theShop)], failures := .empty }

/-- The shop as a Data Plane holds it, beside its servers one that is not wanted. -/
def holdingStale (name : String) : Memory :=
  .ofConfiguration 1 (serving shop.wireBackend [stale name])

/-- A pass over the shop. -/
@[irreducible]
def visitShop (s : Backends) (m : Memory) : Seen Backends Unit (Plane × Log) :=
  see tables nowhere (Plane.answer (onThisHost 5555 "admin" "secret"))
    (onThisHost 5555 "admin" "secret") ⟨"default", "web"⟩ "2024-05-01T00:00:00Z" .empty
    (s, (), .holding m, [])

/-- A case of it: a server that is not wanted any more is removed, and the next pass only looks. -/
theorem quiescent_stale_server :
    let c := onThisHost 5555 "admin" "secret"
    let key : Key := ⟨"default", "web"⟩
    let first := visitShop withShop (holdingStale "b")
    c.AtRoot ∧ Store.Persists tables key (·.resources.get? key) ∧ Membership.IsSteady nowhere ∧
    Manageable shop.name (holdingStale "b").committed [stale "b"] ∧
    passLabel first.result = "synced" ∧
    ∃ m', first.after.2.2.1 = .holding m' ∧ Quiescent key m' (visitShop first.after.1 m') := by
  intro c key first
  have hroot : c.AtRoot := atRoot_onThisHost 5555 "admin" "secret"
  have hroom : (holdingStale "b").HasRoom := ⟨by decide, by decide⟩
  have hmanageable : Manageable shop.name (holdingStale "b").committed [stale "b"] :=
    manageable_serving shop.wireBackend (by decide)
  have hlabel : passLabel first.result = "synced" := by decide +kernel
  obtain ⟨report, hsynced⟩ := synced_of_passLabel hlabel
  obtain ⟨m', hholding, hnext⟩ := quiescent_iff_isPlain (s := withShop) (b := theShop)
    (d := shop) hroot (persists_tables key) isSteady_nowhere rfl rfl (by simp [theShop, created])
    rfl rfl isPlain_shop hroom (by decide) hmanageable (by rw [← visitShop]) hsynced
  refine ⟨hroot, persists_tables key, isSteady_nowhere, hmanageable, hlabel, m', hholding, ?_⟩
  rw [visitShop]
  exact (hnext _ _ _ _ _ rfl).2 (by decide)

/-- Where a server that is not wanted is called like a wanted one but for a tab, the wanted one is
created and deleted by every pass, although the name of the backend and those of the wanted servers
are plain, everything can be read and all names are distinct. -/
theorem not_quiescent_tab :
    let c := onThisHost 5555 "admin" "secret"
    let key : Key := ⟨"default", "web"⟩
    let first := visitShop withShop (holdingStale "a\t")
    c.AtRoot ∧ Store.Persists tables key (·.resources.get? key) ∧ Membership.IsSteady nowhere ∧
    shop.IsPlain ∧ (holdingStale "a\t").HasRoom ∧
    Manageable shop.name (holdingStale "a\t").committed [stale "a\t"] ∧
    passLabel first.result = "synced" ∧
    ∃ m', first.after.2.2.1 = .holding m' ∧ ¬ Quiescent key m' (visitShop first.after.1 m') := by
  intro c key first
  have hroot : c.AtRoot := atRoot_onThisHost 5555 "admin" "secret"
  have hroom : (holdingStale "a\t").HasRoom := ⟨by decide, by decide⟩
  have hmanageable : Manageable shop.name (holdingStale "a\t").committed [stale "a\t"] :=
    manageable_serving shop.wireBackend (by decide)
  have hlabel : passLabel first.result = "synced" := by decide +kernel
  obtain ⟨report, hsynced⟩ := synced_of_passLabel hlabel
  obtain ⟨m', _, hholding, hrun, hnext⟩ := quiescent_iff_rests (s := withShop) (b := theShop)
    (d := shop) (persists_tables key) isSteady_nowhere rfl rfl (by simp [theShop, created])
    rfl rfl (by rw [← visitShop]) hsynced
  refine ⟨hroot, persists_tables key, isSteady_nowhere, isPlain_shop, hroom, hmanageable, hlabel,
    m', hholding, fun hquiescent => ?_⟩
  rw [visitShop] at hquiescent
  have hrests := (hnext _ _ _ _ _ rfl).1 hquiescent
  have hplain := (rests_iff_isPlain hroot isPlain_shop hroom (by decide) hmanageable hrun).1 hrests
  exact absurd (hplain _ List.mem_cons_self) (by decide)

end Shop

end Pass
end ProxySync
