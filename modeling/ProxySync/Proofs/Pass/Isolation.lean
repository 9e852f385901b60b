import ProxySync.Proofs.Pass.Commits
import ProxySync.Proofs.Pass.Gating
/-!
# Passes over different resources

Passes over resources that name different backends leave each other's backends alone. Nothing else
keeps them apart: that a backend belongs to this program says nothing of the resource it was made
for.

## Main definitions

* `Pass.Visit`: a pass over a resource, as the Data Plane sees it.
* `Pass.Visits`: visits one after the other.

## Main statements

* `Pass.Visit.TookPlace.deed`: what a visit does to the Data Plane.
* `Pass.isolated`: visits of resources with other names leave a synced backend alone.
* `Pass.not_isolated_shared_name`: visits of resources with the same name do not.
-/
namespace ProxySync.Pass
open DataPlane
open Simulation (Log Plane)

/-- A pass over a resource, as the Data Plane sees it. -/
structure Visit where
  key : Key
  resource : Resource.Backend
  before : Memory
  result : Except PassError PassOutcome
  after : Memory

/-- There was such a pass, beside a store with the resource, look-ups that may answer anything and a
Data Plane without faults. -/
def Visit.TookPlace (c : Client) (v : Visit) : Prop :=
  ∃ (σ τ : Type) (store : Environment Store.interface σ)
    (members : Environment Membership.interface τ) (now : String) (index index' : ServiceIndex)
    (s s' : σ) (t t' : τ) (log log' : Log),
    (store (.get v.key) s).1 = .ok (some v.resource) ∧
    (start (reconcile now c v.key) index).run (beside store members (Plane.answer c))
      (s, t, .holding v.before, log) = ((v.result, index'), s', t', .holding v.after, log')

/-- Visits one after the other. -/
inductive Visits (c : Client) : Memory → List Visit → Memory → Prop
  | nil (m : Memory) : Visits c m [] m
  | cons {v : Visit} {vs : List Visit} {m : Memory} (visit : v.TookPlace c)
      (rest : Visits c v.after vs m) : Visits c v.before (v :: vs) m

variable {c : Client} {v : Visit} {name : String}

/-- A visit of a resource that is being deleted removes its backend or nothing; any other one
synchronizes it. -/
theorem Visit.TookPlace.deed (hc : c.AtRoot) (h : v.TookPlace c) :
    (v.resource.isDeleting = true ∧ (∀ report, v.result ≠ .ok (.synced report)) ∧
      (v.after = v.before ∨ ∃ ok, Commits c (c.deleteBackend v.resource.spec.name) v.before ok
        v.after.committed)) ∨
    (v.resource.isDeleting = false ∧ ∃ (τ : Type) (members : Environment Membership.interface τ)
      (t t' : τ) (log log' : Log) (asked : List (Exchange DataPlane.interface))
      (r : Except PassError SyncReport),
      Synchronizes members (Plane.answer c) c v.key v.resource t (.holding v.before, log) asked r t'
        (.holding v.after, log') ∧
      ∀ report, v.result = .ok (.synced report) → r.isOk = true) := by
  obtain ⟨σ, τ, store, members, now, index, index', s, s', t, t', log, log', hget, hrun⟩ := h
  obtain ⟨calls, asked, hcourse⟩ := course_of_run hrun
  have hread {found s₁} (h : store (.get v.key) s = (found, s₁)) :
      found = .ok (some v.resource) := by
    rw [h] at hget
    exact hget
  have hremoved {name r session log₁}
      (h : ((c.teardown name).start .fresh).run (Plane.answer c) (.holding v.before, log) =
        ((r, session), (.holding v.after, log₁))) :
      ∃ ok, Commits c (c.deleteBackend name) v.before ok v.after.committed := by
    obtain ⟨m', log', hplane, hcommits⟩ := commits_of_teardown_run hc h
    cases hplane
    exact ⟨_, hcommits⟩
  generalize v.result = r at hcourse ⊢
  generalize hw : (s', t', (Plane.holding v.after, log')) = w' at hcourse
  cases hcourse with
  | unread read | absent read => cases hread read
  | released read deleting =>
    cases hread read
    have hafter : v.after = v.before := by simpa [Plane.holding] using congrArg (·.2.2.1) hw
    refine .inl ⟨deleting, fun _ hr => ?_, .inl hafter⟩
    cases hr
  | kept read deleting _ teardown | undetached read deleting _ teardown
  | finalized read deleting _ teardown =>
    cases hread read
    cases hw
    refine .inl ⟨deleting, fun _ hr => ?_, .inr (hremoved teardown)⟩
    cases hr
  | failed read staying synchronize =>
    cases hread read
    cases hw
    refine .inr ⟨staying, τ, members, t, t', log, log', _, _, synchronize, fun _ hr => ?_⟩
    cases hr
  | unattached read staying synchronize | settled read staying synchronize =>
    cases hread read
    cases hw
    exact .inr ⟨staying, τ, members, t, t', log, log', _, _, synchronize, fun _ _ => rfl⟩

/-! ## What a visit leaves -/

/-- A visit leaves all backends but the one that its resource names. -/
theorem Visit.TookPlace.sameAt (hc : c.AtRoot) (h : v.TookPlace c) {desired : Desired}
    (hvalid : v.resource.spec.validate v.key.ns = .ok desired) (hname : name ≠ v.resource.spec.name)
    (hno : Net.IsPlain name → v.before.committed.NoList name) :
    v.before.committed.SameAt name v.after.committed := by
  obtain ⟨_, _, hafter | ⟨ok, hcommits⟩⟩ | ⟨_, τ, members, t, t', log, log', asked, r, hsync, _⟩ :=
    h.deed hc
  · rw [hafter]
    exact .refl ..
  · obtain hplain | hstep := Validation.isPlain_or_isStep (name_of_validate hvalid).2
    · exact (Client.removes_of_commits hc hplain hcommits).spares (.inl hname)
    · rw [(Client.unchanged_of_teardown_step hc hstep hcommits).2]
      exact .refl ..
  · refine hsync.sameAt hc hname fun hpart => hno ?_
    rcases hpart with rfl | rfl
    · exact isPlain_httpChecks
    · exact isPlain_servers

/-- A visit of a resource that is to stay puts no list in place of its backend. -/
theorem Visit.TookPlace.noList (hc : c.AtRoot) (h : v.TookPlace c)
    (hname : Net.IsPlain v.resource.spec.name) (hstaying : v.resource.isDeleting = false)
    (hno : (∃ report, v.result = .ok (.synced report)) ∨
      v.before.committed.NoList v.resource.spec.name) :
    v.after.committed.NoList v.resource.spec.name := by
  obtain ⟨hdeleting, _⟩ | ⟨_, τ, members, t, t', log, log', asked, r, hsync, hok⟩ := h.deed hc
  · rw [hstaying] at hdeleting
    cases hdeleting
  · exact hsync.noList hc hname (hno.imp_left fun ⟨report, hr⟩ => hok report hr)

/-- Once a resource is synced, and as long as it names the same backend and is to stay, visits of
valid resources that name other backends leave that backend as it is: its definition, its servers
and its check list. -/
theorem isolated (hc : c.AtRoot) {first : Visit} {later : List Visit} {m : Memory}
    (hfirst : first.TookPlace c) {report : SyncReport}
    (hsynced : first.result = .ok (.synced report)) (hlater : Visits c first.after later m)
    (hown : ∀ v ∈ later, v.key = first.key →
      v.resource.spec = first.resource.spec ∧ v.resource.isDeleting = false)
    (hother : ∀ v ∈ later, v.key ≠ first.key →
      (∃ desired, v.resource.spec.validate v.key.ns = .ok desired) ∧
        v.resource.spec.name ≠ first.resource.spec.name) :
    ∀ v ∈ later, v.key ≠ first.key →
      v.before.committed.SameAt first.resource.spec.name v.after.committed := by
  have hstart : Net.IsPlain first.resource.spec.name →
      first.after.committed.NoList first.resource.spec.name := by
    intro hplain
    obtain ⟨_, hnot, _⟩ | ⟨hstaying, _⟩ := hfirst.deed hc
    · exact absurd hsynced (hnot report)
    · exact hfirst.noList hc hplain hstaying (.inl ⟨report, hsynced⟩)
  generalize first.after = m₀ at hlater hstart
  -- Nothing is ever kept under the name that could be read as a list.
  induction hlater with
  | nil => simp
  | @cons v vs m hvisit _ ih =>
    obtain ⟨hown, howns⟩ := List.forall_mem_cons.1 hown
    obtain ⟨hother, hothers⟩ := List.forall_mem_cons.1 hother
    have hspares (hkey : v.key ≠ first.key) :
        v.before.committed.SameAt first.resource.spec.name v.after.committed := by
      obtain ⟨⟨desired, hvalid⟩, hname⟩ := hother hkey
      exact hvisit.sameAt hc hvalid hname.symm hstart
    refine List.forall_mem_cons.2 ⟨hspares, ih howns hothers fun hplain => ?_⟩
    by_cases hkey : v.key = first.key
    · obtain ⟨hspec, hstaying⟩ := hown hkey
      rw [← hspec] at hplain hstart ⊢
      exact hvisit.noList hc hplain hstaying (.inr (hstart hplain))
    · exact (hstart hplain).of_sameAt (hspares hkey)

/-! ## Visits that do not -/

/-- The resource with the finalizer, while it is being deleted. -/
def leavingOf (key : Key) (spec : Resource.Spec) : Resource.Backend :=
  { metadata :=
      { name := some key.name, ns := some key.ns, deletionTimestamp := some ⟨0⟩
        finalizers := some [Resource.Backend.finalizer] }
    spec, status := none }

/-- The visit of a resource beside those partners. -/
def visitBeside {σ τ : Type} (store : Environment Store.interface σ)
    (members : Environment Membership.interface τ) (c : Client) (key : Key) (b : Resource.Backend)
    (s : σ) (t : τ) (m : Memory) : Visit :=
  let run := (start (reconcile "2024-05-01T00:00:00Z" c key) .empty).run
    (beside store members (Plane.answer c)) (s, t, .holding m, [])
  { key, resource := b, before := m, result := run.1.1, after := run.2.2.2.1.memory.getD m }

theorem tookPlace_visitBeside {σ τ : Type} {store : Environment Store.interface σ}
    {members : Environment Membership.interface τ} {key : Key} {b : Resource.Backend} {s : σ}
    (hget : (store (.get key) s).1 = .ok (some b)) (t : τ) (m : Memory) :
    (visitBeside store members c key b s t m).TookPlace c := by
  obtain ⟨log', hafter⟩ :=
    run_holds store members "2024-05-01T00:00:00Z" c key .empty s t m []
  exact ⟨σ, τ, store, members, _, .empty, _, s, _, t, _, [], log', hget,
    Prod.ext rfl (Prod.ext rfl (Prod.ext rfl hafter))⟩

/-- The visit of a resource in a cluster with nothing else. -/
@[irreducible] def visitOf (c : Client) (key : Key) (b : Resource.Backend) (m : Memory) : Visit :=
  visitBeside (fun call (s : Simulation.Backends) => s.perform call)
    (fun call (t : Unit) => (Simulation.Members.empty.lookUp call, t)) c key b
    { resources := Table.empty.insert key b, failures := .empty } () m

section
variable (c : Client) (key : Key) (b : Resource.Backend) (m : Memory)

@[simp] theorem key_visitOf : (visitOf c key b m).key = key := by rw [visitOf, visitBeside]

@[simp] theorem resource_visitOf : (visitOf c key b m).resource = b := by
  rw [visitOf, visitBeside]

@[simp] theorem before_visitOf : (visitOf c key b m).before = m := by rw [visitOf, visitBeside]

theorem tookPlace_visitOf : (visitOf c key b m).TookPlace c := by
  rw [visitOf]
  exact tookPlace_visitBeside (congrArg Except.ok (by simp)) () m

variable {c key b m} in
theorem visits_visitOf {vs : List Visit} {m' : Memory}
    (rest : Visits c (visitOf c key b m).after vs m') :
    Visits c m (visitOf c key b m :: vs) m' := by
  have hcons := Visits.cons (tookPlace_visitOf c key b m) rest
  rwa [before_visitOf] at hcons

end

/-- The program does not tell which of its backends was made for which resource. Where two resources
name the same backend, the deletion of one of them removes the backend of the other. -/
theorem not_isolated_shared_name :
    let c := Client.onThisHost 5555 "admin" "secret"
    let first := visitOf c ⟨"default", "web"⟩ (created ⟨"default", "web"⟩ shopSpec)
      (.ofConfiguration 1 .empty)
    let second := visitOf c ⟨"other", "web"⟩ (leavingOf ⟨"other", "web"⟩ shopSpec) first.after
    c.AtRoot ∧ first.TookPlace c ∧ passLabel first.result = "synced" ∧
    Visits c first.after [second] second.after ∧ second.key ≠ first.key ∧
    (∃ desired, first.resource.spec.validate first.key.ns = .ok desired) ∧
    (∃ desired, second.resource.spec.validate second.key.ns = .ok desired) ∧
    ¬ second.before.committed.SameAt first.resource.spec.name second.after.committed := by
  intro c first second
  have hname : first.resource.spec.name = "shop" := by simp only [first, resource_visitOf]; rfl
  have hvalid (ns : String) : ∃ desired, shopSpec.validate ns = .ok desired := ⟨_, rfl⟩
  have heval : (passLabel first.result, (second.before.committed.backends.get? "shop").isSome,
      (second.after.committed.backends.get? "shop").isSome) = ("synced", true, false) := by
    decide +kernel
  simp only [Prod.mk.injEq] at heval
  obtain ⟨hlabel, hbefore, hafter⟩ := heval
  refine ⟨Client.atRoot_onThisHost _ _ _, tookPlace_visitOf .., hlabel, visits_visitOf (.nil _), ?_,
    ?_, ?_, fun hsame => ?_⟩
  · simp [first, second]
  · rw [resource_visitOf, key_visitOf]
    exact hvalid _
  · rw [resource_visitOf, key_visitOf]
    exact hvalid _
  · rw [hname] at hsame
    rw [hsame.backends, hbefore] at hafter
    cases hafter

/-- Another backend. -/
def cartSpec : Resource.Spec := { shopSpec with name := "cart" }

/-- A case of the theorem: a resource that names another backend is synchronized and then deleted,
and in between the first one is visited again. -/
theorem isolated_two_shops :
    let c := Client.onThisHost 5555 "admin" "secret"
    let shop : Resource.Backend := created ⟨"default", "web"⟩ shopSpec
    let first := visitOf c ⟨"default", "web"⟩ shop (.ofConfiguration 1 .empty)
    let second := visitOf c ⟨"other", "web"⟩ (created ⟨"other", "web"⟩ cartSpec) first.after
    let third := visitOf c ⟨"default", "web"⟩ shop second.after
    let last := visitOf c ⟨"other", "web"⟩ (leavingOf ⟨"other", "web"⟩ cartSpec) third.after
    c.AtRoot ∧ first.TookPlace c ∧ Visits c first.after [second, third, last] last.after ∧
    [first, second, third, last].map (passLabel ·.result) =
      ["synced", "synced", "synced", "finalized"] ∧
    ∀ v ∈ [second, third, last], v.key ≠ first.key →
      v.before.committed.SameAt first.resource.spec.name v.after.committed := by
  intro c shop first second third last
  have hroot : c.AtRoot := Client.atRoot_onThisHost _ _ _
  have hfirst : first.TookPlace c := tookPlace_visitOf ..
  have hvisits : Visits c first.after [second, third, last] last.after :=
    visits_visitOf (visits_visitOf (visits_visitOf (.nil _)))
  have hlabels : [first, second, third, last].map (passLabel ·.result) =
      ["synced", "synced", "synced", "finalized"] := by decide +kernel
  obtain ⟨report, hsynced⟩ := synced_of_passLabel (List.cons.inj hlabels).1
  have hvalid : ∃ desired, cartSpec.validate "other" = .ok desired := ⟨_, rfl⟩
  refine ⟨hroot, hfirst, hvisits, hlabels, isolated hroot hfirst hsynced hvisits ?_ ?_⟩
  · have hother : (⟨"other", "web"⟩ : Key) ≠ ⟨"default", "web"⟩ := by decide
    simp only [first, second, third, last, List.forall_mem_cons, key_visitOf, resource_visitOf]
    exact ⟨fun h => absurd h hother, fun _ => ⟨trivial, rfl⟩, fun h => absurd h hother, by simp⟩
  · have hname : cartSpec.name ≠ shop.spec.name := by decide
    simp only [first, second, third, last, List.forall_mem_cons, key_visitOf, resource_visitOf]
    exact ⟨fun _ => ⟨hvalid, hname⟩, fun h => absurd rfl h, fun _ => ⟨hvalid, hname⟩, by simp⟩

end ProxySync.Pass
