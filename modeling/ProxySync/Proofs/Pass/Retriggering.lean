import ProxySync.Proofs.DataPlane.Address
import ProxySync.Proofs.Index.Refinement
import ProxySync.Proofs.Pass.Noting
import ProxySync.Proofs.Pass.Partners
import ProxySync.Simulation.Cluster
/-!
# Backends follow their Services

The index of Services is kept by the passes themselves, so that a change of a Service finds the
backends that depend on it. A pass that found a valid resource notes every Service that it looks up,
even if it fails later; a pass that found nothing to keep in agreement forgets the backend; and a
pass that does not know what became of the resource leaves the index alone.

## Main definitions

* `ServiceIndex.Triggers`: all events of a Service concern a backend.
* `Pass.Round`: a pass among partners that answer anything.
* `Pass.indexAfter`: the index that rounds leave.
* `Pass.Follows`: the events that concern a backend are those of the Services that it needs.

## Main statements

* `Pass.Round.leaves_of_staying`, `Pass.Round.Dismisses.leaves`: what one round makes of the index.
* `Pass.relates_later`: rounds over other keys, and rounds that read nothing, leave what is noted.
* `Pass.backends_follow`: after any rounds every backend follows its Services.
-/
namespace ProxySync

namespace ServiceIndex

/-- Every event of the Service concerns the backend: an event of itself and one of each of its
slices. -/
def Triggers (x : ServiceIndex) (service backend : Key) : Prop :=
  (∀ s : Kube.Service, s.metadata.ns = some service.ns → s.metadata.name = some service.name →
    backend ∈ x.backendsForService s) ∧
  ∀ s : Kube.EndpointSlice, s.metadata.ns = some service.ns →
    s.metadata.label? "kubernetes.io/service-name" = some service.name →
    backend ∈ x.backendsForSlice s

variable {x : ServiceIndex} {backend : Key}

theorem WellFormed.mem_backendsForService (h : WellFormed x) {s : Kube.Service} :
    backend ∈ x.backendsForService s ↔ Relates x.byBackend backend s.metadata.key :=
  mem_backendsFor.trans (h.inverse _ _)

theorem WellFormed.mem_backendsForSlice (h : WellFormed x) {s : Kube.EndpointSlice} :
    backend ∈ x.backendsForSlice s ↔
      ∃ service, sliceService? s = some service ∧ Relates x.byBackend backend service := by
  rw [backendsForSlice]
  cases sliceService? s with
  | none => simp
  | some service => simp [mem_backendsFor, h.inverse]

theorem WellFormed.triggers (h : WellFormed x) {service : Key}
    (hrelates : Relates x.byBackend backend service) : x.Triggers service backend := by
  refine ⟨fun s hns hname => ?_, fun s hns hlabel => ?_⟩
  · have hkey : s.metadata.key = service := by
      simp [Kube.Meta.key, Kube.Meta.nsText, Kube.Meta.nameOrStem, hns, hname]
    rw [h.mem_backendsForService, hkey]
    exact hrelates
  · have hservice : sliceService? s = some service := by
      simp [sliceService?, Kube.EndpointSlice.serviceLabel, hlabel, Kube.Meta.nsText, hns]
    exact h.mem_backendsForSlice.2 ⟨service, hservice, hrelates⟩

end ServiceIndex

namespace Pass
open ServiceIndex (WellFormed Relates)
variable {σ : Type} {x : ServiceIndex} {b : Resource.Backend}

/-! ## Rounds -/

/-- A pass over the resource of a key, among partners that answer anything. -/
structure Round (σ : Type) where
  key : Key
  now : String
  client : DataPlane.Client
  partners : Environment interface σ
  state : σ

namespace Round
variable (v : Round σ) (x : ServiceIndex)

/-- What the store says of the resource. -/
def read : Except String (Option Resource.Backend) :=
  (v.partners (.store (.get v.key)) v.state).1

/-- How the round ends, begun with an index. -/
def result : Except PassError PassOutcome :=
  ((start (reconcile v.now v.client v.key) x).run v.partners v.state).1.1

/-- The index that the round leaves. -/
def leaves : ServiceIndex :=
  ((start (reconcile v.now v.client v.key) x).run v.partners v.state).1.2

/-- The Services that are looked up in the course of the round. -/
def lookedUp : List Key := Pass.lookedUp v.partners (reconcile v.now v.client v.key) x v.state

/-- The state after the resource was read. -/
def opened : σ := (v.partners (.store (.get v.key)) v.state).2

variable {v x}

theorem run_of_found (hread : v.read = .ok (some b)) :
    (start (reconcile v.now v.client v.key) x).run v.partners v.state =
      (start (if b.isDeleting then finalize v.now v.client v.key b
        else sync v.now v.client v.key b) x).run v.partners v.opened := by
  rw [run_reconcile, ← Prod.eta (v.partners (.store (.get v.key)) v.state)]
  rw [read] at hread
  rw [hread, opened]

/-- A round over a resource that is being deleted. -/
theorem leaves_of_deleting (hread : v.read = .ok (some b)) (hdeleting : b.isDeleting = true) :
    (v.leaves x = match v.result x with
      | .ok _ => x.remove v.key
      | .error _ => x) ∧
    (b.hasFinalizer = false → v.result x = .ok .finalized) := by
  rw [leaves, result, run_of_found hread, if_pos hdeleting]
  have hfinalize := index_finalize v.partners v.now v.client v.key b x v.opened
  exact ⟨hfinalize.1, hfinalize.2.2⟩

/-- A round over a resource that is to stay. -/
theorem leaves_of_staying (hread : v.read = .ok (some b)) (hstaying : b.isDeleting = false) :
    (v.leaves x = match b.spec.validate v.key.ns with
      | .ok desired => x.update v.key desired.serviceKeys
      | .error _ => x.remove v.key) ∧
    v.lookedUp x = match b.spec.validate v.key.ns with
      | .ok desired => Resolution.asked (lookUps v.partners) desired.resolve v.opened
      | .error _ => [] := by
  have hsync := index_sync v.partners v.now v.client v.key b x v.opened
  have hsynchronize := index_synchronize v.partners v.client v.key b x v.opened
  have hlookedUp : v.lookedUp x = Pass.lookedUp v.partners (sync v.now v.client v.key b) x
      v.opened := by
    rw [lookedUp, lookedUp_reconcile, ← Prod.eta (v.partners (.store (.get v.key)) v.state)]
    rw [read] at hread
    rw [hread, opened]
    simp only [hstaying, Bool.false_eq_true, if_false]
  rw [leaves, run_of_found hread, hlookedUp, hsync.2]
  simp only [hstaying, Bool.false_eq_true, if_false]
  exact ⟨hsync.1.trans hsynchronize.1, hsynchronize.2⟩

theorem leaves_of_unread {cause : String} (hread : v.read = .error cause) : v.leaves x = x := by
  rw [leaves, run_reconcile, ← Prod.eta (v.partners (.store (.get v.key)) v.state)]
  rw [read] at hread
  rw [hread]

theorem leaves_of_absent (hread : v.read = .ok none) : v.leaves x = x.remove v.key := by
  rw [leaves, run_reconcile, ← Prod.eta (v.partners (.store (.get v.key)) v.state)]
  rw [read] at hread
  rw [hread]

variable (v x) in
/-- A round calls the index once at most, about its own backend. -/
theorem leaves_cases : v.leaves x = x ∨
    ∃ call : ServiceIndex.Call, call.backend = v.key ∧ v.leaves x = call.make x := by
  rcases hread : v.read with cause | _ | b
  · exact .inl (leaves_of_unread hread)
  · exact .inr ⟨.remove v.key, rfl, leaves_of_absent hread⟩
  · cases hb : b.isDeleting with
    | true =>
      rw [(leaves_of_deleting hread hb).1]
      cases v.result x with
      | ok _ => exact .inr ⟨.remove v.key, rfl, rfl⟩
      | error _ => exact .inl rfl
    | false =>
      rw [(leaves_of_staying hread hb).1]
      cases b.spec.validate v.key.ns with
      | ok desired => exact .inr ⟨.update v.key desired.serviceKeys, rfl, rfl⟩
      | error _ => exact .inr ⟨.remove v.key, rfl, rfl⟩

theorem wellFormed_leaves (h : WellFormed x) : WellFormed (v.leaves x) := by
  obtain hleaves | ⟨call, _, hleaves⟩ := v.leaves_cases x
  · rwa [hleaves]
  · rw [hleaves]
    exact h.make call

/-- What is noted of other backends is not touched. -/
theorem relates_leaves {backend service : Key} (h : v.key ≠ backend) :
    Relates (v.leaves x).byBackend backend service ↔ Relates x.byBackend backend service := by
  obtain hleaves | ⟨call, hcall, hleaves⟩ := v.leaves_cases x
  · rw [hleaves]
  · rw [hleaves, ServiceIndex.relates_make, if_neg (hcall ▸ h)]

/-- The round finds nothing to keep in agreement: the resource is absent or not valid, or it is
being deleted and need not be finalized any more. -/
def Dismisses (v : Round σ) (x : ServiceIndex) : Prop :=
  v.read = .ok none ∨ ∃ b, v.read = .ok (some b) ∧
    (b.isDeleting = false ∧ (b.spec.validate v.key.ns).isOk = false ∨
      b.isDeleting = true ∧ (b.hasFinalizer = false ∨ v.result x = .ok .finalized))

theorem Dismisses.leaves (h : v.Dismisses x) : v.leaves x = x.remove v.key := by
  obtain hread | ⟨b, hread, ⟨hstaying, hinvalid⟩ | ⟨hdeleting, hfinal⟩⟩ := h
  · exact leaves_of_absent hread
  · rw [(leaves_of_staying hread hstaying).1]
    cases hvalidate : b.spec.validate v.key.ns with
    | ok _ =>
      rw [hvalidate] at hinvalid
      cases hinvalid
    | error _ => rfl
  · obtain ⟨hleaves, hfree⟩ := leaves_of_deleting (x := x) hread hdeleting
    have hresult : v.result x = .ok .finalized := hfinal.elim hfree id
    rw [hleaves, hresult]

end Round

/-- The index that rounds leave of an empty one. -/
def indexAfter (rounds : List (Round σ)) : ServiceIndex :=
  rounds.foldl (fun x v => v.leaves x) .empty

theorem wellFormed_indexAfter (rounds : List (Round σ)) : WellFormed (indexAfter rounds) := by
  induction rounds using List.reverseRecOn with
  | nil => exact ServiceIndex.wellFormed_empty
  | append_singleton rounds v ih =>
    rw [indexAfter, List.foldl_concat]
    exact Round.wellFormed_leaves ih

/-- Rounds over other keys and rounds that read nothing leave what is noted of a backend. -/
theorem relates_later {backend service : Key} {later : List (Round σ)}
    (hlater : ∀ u ∈ later, u.key = backend → u.read.isOk = false) :
    Relates (later.foldl (fun x v => v.leaves x) x).byBackend backend service ↔
      Relates x.byBackend backend service := by
  induction later generalizing x with
  | nil => rfl
  | cons u later ih =>
    obtain ⟨hu, hrest⟩ := List.forall_mem_cons.1 hlater
    rw [List.foldl_cons, ih hrest]
    by_cases hkey : u.key = backend
    · rcases hread : u.read with cause | _
      · rw [Round.leaves_of_unread hread]
      · have hok := hu hkey
        rw [hread] at hok
        cases hok
    · exact Round.relates_leaves hkey

/-- What the index makes of a backend, where `x` is the index before the latest round that read the
resource and `y` one that was reached later. -/
structure Follows (v : Round σ) (x y : ServiceIndex) : Prop where
  /-- A valid resource that is to stay is concerned by all events of the Services that the round
  looked up or might have looked up, however the round ended. -/
  triggered : ∀ b desired, v.read = .ok (some b) → b.isDeleting = false →
    b.spec.validate v.key.ns = .ok desired →
    ∀ service, service ∈ v.lookedUp x ∨ desired.LooksUp service → y.Triggers service v.key
  /-- It is concerned by the events of no other Service. -/
  spared : ∀ b desired, v.read = .ok (some b) → b.isDeleting = false →
    b.spec.validate v.key.ns = .ok desired →
    (∀ s, v.key ∈ y.backendsForService s → desired.LooksUp s.metadata.key) ∧
    ∀ s, v.key ∈ y.backendsForSlice s →
      ∃ service, ServiceIndex.sliceService? s = some service ∧ desired.LooksUp service
  /-- With nothing to keep in agreement, no event concerns the backend. -/
  dismissed : v.Dismisses x →
    (∀ s, v.key ∉ y.backendsForService s) ∧ ∀ s, v.key ∉ y.backendsForSlice s
  /-- A round that reads nothing, or whose finalization fails, leaves the index alone. -/
  kept : (v.read.isOk = false ∨ ∃ b e, v.read = .ok (some b) ∧ b.isDeleting = true ∧
    v.result x = .error e) → v.leaves x = x

/-- After any rounds, and for the latest one that read its resource, the backend follows the
Services that it needs. -/
theorem backends_follow (before : List (Round σ)) (v : Round σ) (later : List (Round σ))
    (hlater : ∀ u ∈ later, u.key = v.key → u.read.isOk = false) :
    Follows v (indexAfter before) (indexAfter (before ++ v :: later)) := by
  have hwell := wellFormed_indexAfter (before ++ v :: later)
  have hrelates {service : Key} :
      Relates (indexAfter (before ++ v :: later)).byBackend v.key service ↔
        Relates (v.leaves (indexAfter before)).byBackend v.key service := by
    rw [indexAfter, List.foldl_append, List.foldl_cons]
    exact relates_later hlater
  -- What is noted of a valid resource are the Services that it might look up.
  have hnoted {b desired} (hread : v.read = .ok (some b)) (hstaying : b.isDeleting = false)
      (hvalid : b.spec.validate v.key.ns = .ok desired) {service : Key} :
      Relates (indexAfter (before ++ v :: later)).byBackend v.key service ↔
        desired.LooksUp service := by
    rw [hrelates, (Round.leaves_of_staying hread hstaying).1, hvalid, Desired.looksUp_iff]
    exact ServiceIndex.relates_update.trans (by rw [if_pos rfl])
  constructor
  · intro b desired hread hstaying hvalid service hservice
    refine hwell.triggers ((hnoted hread hstaying hvalid).2 (hservice.elim (fun hlooked => ?_) id))
    rw [(Round.leaves_of_staying hread hstaying).2, hvalid] at hlooked
    exact ⟨σ, _, _, hlooked⟩
  · intro b desired hread hstaying hvalid
    refine ⟨fun s hs => (hnoted hread hstaying hvalid).1 (hwell.mem_backendsForService.1 hs),
      fun s hs => ?_⟩
    obtain ⟨service, hslice, hservice⟩ := hwell.mem_backendsForSlice.1 hs
    exact ⟨service, hslice, (hnoted hread hstaying hvalid).1 hservice⟩
  · intro hdismissed
    have hnone {service : Key} :
        ¬ Relates (indexAfter (before ++ v :: later)).byBackend v.key service := by
      rw [hrelates, hdismissed.leaves, ServiceIndex.relates_remove]
      exact fun h => h.1 rfl
    refine ⟨fun s hs => hnone (hwell.mem_backendsForService.1 hs), fun s hs => ?_⟩
    obtain ⟨service, _, hservice⟩ := hwell.mem_backendsForSlice.1 hs
    exact hnone hservice
  · rintro (hread | ⟨b, e, hread, hdeleting, hresult⟩)
    · cases hcause : v.read with
      | error cause => exact Round.leaves_of_unread hcause
      | ok _ =>
        rw [hcause] at hread
        cases hread
    · rw [(Round.leaves_of_deleting hread hdeleting).1, hresult]

/-- A round beside tables, with no Service and no Data Plane. -/
def offlineRound (key : Key) (s : Simulation.Backends) :
    Round (Simulation.Backends × Unit × Unit) where
  key
  now := "2024-05-01T00:00:00Z"
  client := .onThisHost 5555 "admin" "secret"
  partners := beside (fun call s => s.serve call)
    (fun call t => (Simulation.Members.empty.lookUp call, t)) unreachable
  state := (s, (), ())

/-- A backend whose servers are the endpoints of a Service elsewhere. -/
def cacheSpec : Resource.Spec where
  name := "web"
  mode := none
  balance := none
  advCheck := none
  servers := [{ name := none, address := none, port := some 8080, id := none, check := none
                valueFrom := some ⟨some ⟨some "shared", "cache", none⟩⟩ }]
  httpChecks := []

/-- Tables with that backend alone. -/
def withCache (key : Key) : Simulation.Backends where
  resources := .ofList [(key,
    { metadata := { name := some key.name, ns := some key.ns }, spec := cacheSpec
      status := none })]
  failures := .empty

/-- A case of it: a backend follows a Service that is missing, also after a round in which it could
not be read, and follows none once it is gone. -/
theorem backends_follow_missing_service :
    let key : Key := ⟨"default", "web"⟩
    let cache : Key := ⟨"shared", "cache"⟩
    let found := offlineRound key (withCache key)
    let unread := offlineRound key { withCache key with failures := .ofList [("get", "timeout")] }
    let gone := offlineRound key { withCache key with resources := .empty }
    (∀ u ∈ [unread], u.key = key → u.read.isOk = false) ∧ unread.key = key ∧
    (found.result .empty).isOk = false ∧ found.lookedUp .empty = [cache] ∧
    (indexAfter ([] ++ found :: [unread])).Triggers cache key ∧
    (indexAfter ([] ++ found :: [unread])).backendsFor cache = [key] ∧
    (∀ s, key ∉ (indexAfter ([found] ++ gone :: [unread])).backendsForService s) ∧
    ∀ s, key ∉ (indexAfter ([found] ++ gone :: [unread])).backendsForSlice s := by
  intro key cache found unread gone
  have hunread : ∀ u ∈ [unread], u.key = key → u.read.isOk = false := by
    rintro u hu -
    rw [List.mem_singleton.1 hu]
    decide +kernel
  have hlooked : found.lookedUp .empty = [cache] := by decide +kernel
  obtain ⟨desired, hvalid⟩ : ∃ desired, cacheSpec.validate key.ns = .ok desired := by
    have hok : (cacheSpec.validate key.ns).isOk = true := by decide +kernel
    cases hvalidate : cacheSpec.validate key.ns with
    | ok desired => exact ⟨desired, rfl⟩
    | error e =>
      rw [hvalidate] at hok
      cases hok
  refine ⟨hunread, rfl, by decide +kernel, hlooked, ?_, by decide +kernel,
    (backends_follow [found] gone [unread] hunread).dismissed (.inl rfl)⟩
  exact (backends_follow [] found [unread] hunread).triggered _ desired rfl rfl hvalid
    cache (.inl (hlooked ▸ List.mem_cons_self))

end Pass
end ProxySync
