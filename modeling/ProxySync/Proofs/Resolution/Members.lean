import ProxySync.Proofs.Session.Conduct
import ProxySync.Resolution
/-!
# The members that a resolution finds

What a resolution makes of a backend is settled by its entries and by what its look-ups were
answered, place by place: nothing says that the same question is answered alike twice. An entry that
stands for a Service becomes one server for each endpoint of the Service that counts, and the first
entry that cannot be resolved is the failure of the whole.

## Main definitions

* `Candidate`: an endpoint in its slice, with what was found of the Pod that it targets.
* `Candidate.server?`: the server that it makes, if it counts.
* `Findings`: what the look-ups for one entry were answered.
* `Findings.servers`, `Findings.lookups`: what becomes of the entry, and what was looked up for it.

## Main statements

* `Desired.resolves`: the result of a resolution, whatever its look-ups are answered.
-/
namespace ProxySync
open Dialogue (Leads)

/-! ## Pods -/

/-- The Pod takes requests: it runs, is ready and is not going away. -/
def Kube.Pod.IsServing (p : Kube.Pod) : Prop :=
  p.metadata.deletionTimestamp = none ∧
    ∃ s ∈ p.status, s.phase = some "Running" ∧
      ∃ cs ∈ s.conditions, ∃ k ∈ cs, k.kind = "Ready" ∧ k.status = "True"

theorem Kube.Pod.isLive_iff {p : Kube.Pod} : p.isLive = true ↔ p.IsServing := by
  obtain ⟨m, _ | ⟨phase, _ | cs⟩⟩ := p <;> simp [isLive, IsServing, Meta.isDeleting]

instance (p : Kube.Pod) : Decidable p.IsServing := decidable_of_iff _ Kube.Pod.isLive_iff

/-- What the look-up of a Pod was answered. -/
abbrev PodAnswer := Except String (Option Kube.Pod)

/-- A Pod that was found speaks against what targets it unless it takes requests. One that is not
there or could not be looked up does not. -/
def PodAnswer.Allows : PodAnswer → Prop
  | .ok (some p) => p.IsServing
  | .ok none => True
  | .error _ => True

instance (a : PodAnswer) : Decidable a.Allows :=
  match a with
  | .ok (some p) => inferInstanceAs (Decidable p.IsServing)
  | .ok none => .isTrue trivial
  | .error _ => .isTrue trivial

/-! ## Endpoints -/

/-- The endpoint says that it is going away. -/
def Kube.Endpoint.IsLeaving (e : Kube.Endpoint) : Prop :=
  ∃ k ∈ e.conditions, k.terminating = some true

instance (e : Kube.Endpoint) : Decidable e.IsLeaving :=
  inferInstanceAs (Decidable (∃ k ∈ e.conditions, k.terminating = some true))

/-- The Pod that an endpoint targets by name: in the namespace of the target, else in this one. -/
def Kube.Endpoint.podKey? (ns : String) (e : Kube.Endpoint) : Option Key :=
  match e.targetRef with
  | some { kind := some "Pod", name := some name, ns := own, .. } => some ⟨own.getD ns, name⟩
  | _ => none

/-- An endpoint in its slice, with what the look-up of the Pod that it targets was answered. Where
none is looked up the answer does not matter. -/
structure Candidate where
  slice : Kube.EndpointSlice
  endpoint : Kube.Endpoint
  pod : PodAnswer

namespace Candidate

/-- The endpoint counts: it is not going away, and its Pod, if it targets one, does not speak
against it. -/
def IsLive (ns : String) (c : Candidate) : Prop :=
  ¬ c.endpoint.IsLeaving ∧ ((c.endpoint.podKey? ns).isSome = true → c.pod.Allows)

instance (ns : String) (c : Candidate) : Decidable (c.IsLive ns) :=
  inferInstanceAs (Decidable (_ ∧ (_ → _)))

/-- The name of the target, else that of the node, else the address. -/
def name (c : Candidate) (address : String) : String :=
  match c.endpoint.targetRef.bind (·.name), c.endpoint.nodeName with
  | some target, _ => target
  | none, some node => node
  | none, none => address

/-- The port of the first port of the slice that has the name, if it is one of 16 bits. -/
def portNamed? (s : Kube.EndpointSlice) (name : String) : Option UInt16 :=
  match ((s.ports.getD []).filter (·.name = some name)).head? with
  | some { port := some n, .. } =>
    if 0 ≤ n ∧ n < 65536 then some (UInt16.ofNat n.toNat) else none
  | _ => none

/-- The port of the entry, else that of its Service by number, else by name. -/
def port? (d : DynamicServer) (c : Candidate) : Option UInt16 :=
  match d.port, d.servicePort with
  | some p, _ => some p
  | none, some (.number n) => some n
  | none, some (.name name) => portNamed? c.slice name
  | none, none => none

/-- The server of an endpoint that has an address and counts. -/
def server? (d : DynamicServer) (c : Candidate) : Option StaticServer :=
  match c.endpoint.addresses with
  | [] => none
  | address :: _ =>
    if c.IsLive d.ns then
      some { name := c.name address, address, port := c.port? d, id := none, check := d.check }
    else none

/-- What is looked up for an endpoint: the Pod that it targets, unless the endpoint cannot count
anyway. -/
def lookups (d : DynamicServer) (c : Candidate) : List (Exchange Membership.interface) :=
  if c.endpoint.addresses = [] ∨ c.endpoint.IsLeaving then []
  else (c.endpoint.podKey? d.ns).toList.map fun key => ⟨.pod key, c.pod⟩

end Candidate

/-! ## Entries -/

/-- The endpoints of slices, each in its slice. -/
def places (slices : List Kube.EndpointSlice) : List (Kube.EndpointSlice × Kube.Endpoint) :=
  slices.flatMap fun s => s.endpoints.map (s, ·)

/-- What the look-ups for one entry were answered; of those that were not made the answer does not
matter. -/
structure Findings where
  service : Except String (Option Kube.Service)
  slices : Except String (List Kube.EndpointSlice)
  candidates : List Candidate
  complete : ∀ ss, slices = .ok ss → candidates.map (fun c => (c.slice, c.endpoint)) = places ss

namespace Findings

/-- Nothing was looked up. -/
def nothing : Findings where
  service := .ok none
  slices := .ok []
  candidates := []
  complete := by simp [places]

/-- What becomes of an entry that stands for a Service. -/
def members (d : DynamicServer) (f : Findings) : Except PassError (List StaticServer) :=
  match f.service, f.slices with
  | .error cause, _ => .error (.membershipLookup ("Service " ++ d.ns ++ "/" ++ d.service) cause)
  | .ok none, _ => .error (.serviceNotFound d.ns d.service)
  | .ok (some _), .error cause =>
    .error (.membershipLookup ("EndpointSlices of Service " ++ d.ns ++ "/" ++ d.service) cause)
  | .ok (some _), .ok [] => .error (.endpointsNotFound d.ns d.service)
  | .ok (some _), .ok (_ :: _) =>
    match f.candidates.filterMap (·.server? d) with
    | [] => .error (.noUsableEndpoints d.ns d.service)
    | s :: ss => .ok (s :: ss)

/-- What becomes of an entry. -/
def servers (f : Findings) : ServerEntry → Except PassError (List StaticServer)
  | .fixed s => .ok [s]
  | .dynamic d => f.members d

/-- What is looked up for an entry: its Service, if that is there the slices, and then the Pods of
the endpoints. -/
def lookups (f : Findings) : ServerEntry → List (Exchange Membership.interface)
  | .fixed _ => []
  | .dynamic d =>
    ⟨.service d.serviceKey, f.service⟩ ::
      match f.service, f.slices with
      | .ok (some _), .ok _ =>
        ⟨.slices d.serviceKey, f.slices⟩ :: f.candidates.flatMap (·.lookups d)
      | .ok (some _), .error _ => [⟨.slices d.serviceKey, f.slices⟩]
      | _, _ => []

end Findings

/-- What becomes of entries: the servers of all, or the failure of the first that has one. -/
def foundServers (found : List (ServerEntry × Findings)) : Except PassError (List StaticServer) :=
  (found.mapM fun x : ServerEntry × Findings => x.2.servers x.1).map List.flatten

/-- What is looked up for entries, up to the first that fails. -/
def foundLookups : List (ServerEntry × Findings) → List (Exchange Membership.interface)
  | [] => []
  | (e, f) :: found =>
    f.lookups e ++ match f.servers e with
      | .ok _ => foundLookups found
      | .error _ => []

/-- The first server of each name. -/
def firstOfEachName (ss : List StaticServer) : List StaticServer :=
  ss.eraseDupsBy fun s s' => s.name == s'.name

/-! ## Steps of a resolution -/

namespace Resolution
variable {α β : Type} {tr : List (Exchange Membership.interface)}

/-- How two steps are answered, one after the other. -/
theorem leads_bind {x : ResolutionM α} {f : α → ResolutionM β} {r : Except PassError β} :
    Leads (x >>= f).run tr r ↔
      (∃ tr₁ tr₂ a, tr = tr₁ ++ tr₂ ∧ Leads x.run tr₁ (.ok a) ∧ Leads (f a).run tr₂ r) ∨
      ∃ e, r = .error e ∧ Leads x.run tr (.error e) := by
  refine (Dialogue.leads_bind (d := x.run) (f := ExceptT.bindCont f)).trans ⟨?_, ?_⟩
  · rintro ⟨tr₁, tr₂, _ | a, rfl, hx, hf⟩
    · obtain ⟨rfl, rfl⟩ := Dialogue.leads_done.1 hf
      exact .inr ⟨_, rfl, by simpa using hx⟩
    · exact .inl ⟨tr₁, tr₂, a, rfl, hx, hf⟩
  · rintro (⟨tr₁, tr₂, a, rfl, hx, hf⟩ | ⟨e, rfl, hx⟩)
    · exact ⟨tr₁, tr₂, .ok a, rfl, hx, hf⟩
    · exact ⟨tr, [], .error e, by simp, hx, .done _⟩

@[simp] theorem leads_pure {a : α} {r : Except PassError α} :
    Leads (pure a : ResolutionM α).run tr r ↔ tr = [] ∧ r = .ok a :=
  Dialogue.leads_done

@[simp] theorem leads_throw {e : PassError} {r : Except PassError α} :
    Leads (throw e : ResolutionM α).run tr r ↔ tr = [] ∧ r = .error e :=
  Dialogue.leads_done

/-- A look-up hands its answer on. -/
theorem leads_lookup {c : Membership.Call} {f : Membership.interface.Answer c → ResolutionM β}
    {r : Except PassError β} :
    Leads (ExceptT.lift (Dialogue.call (I := Membership.interface) c) >>= f).run tr r ↔
      ∃ a tr', tr = ⟨c, a⟩ :: tr' ∧ Leads (f a).run tr' r :=
  Dialogue.leads_ask

/-- A step that cannot fail is followed by the next one. -/
theorem leads_bind_of_ok {x : ResolutionM α} {f : α → ResolutionM β} {r : Except PassError β}
    {P : List (Exchange Membership.interface) → α → Prop}
    (hx : ∀ {tr r}, Leads x.run tr r → ∃ a, P tr a ∧ r = .ok a) (h : Leads (x >>= f).run tr r) :
    ∃ tr₁ tr₂ a, tr = tr₁ ++ tr₂ ∧ P tr₁ a ∧ Leads (f a).run tr₂ r := by
  obtain ⟨tr₁, tr₂, a, rfl, hx', hf⟩ | ⟨e, rfl, hx'⟩ := leads_bind.1 h
  · obtain ⟨_, hP, ha⟩ := hx hx'
    cases ha
    exact ⟨tr₁, tr₂, a, rfl, hP, hf⟩
  · obtain ⟨_, _, ha⟩ := hx hx'
    cases ha

/-! ## Endpoints and slices -/

section
variable {d : DynamicServer} {s : Kube.EndpointSlice} {e : Kube.Endpoint} {answer : PodAnswer}

theorem isTerminating_iff : isTerminating e = true ↔ e.IsLeaving := by
  obtain ⟨_, _ | ⟨_, _, _ | _⟩, _⟩ := e <;> simp [isTerminating, Kube.Endpoint.IsLeaving]

theorem targetPod?_eq (ns : String) (e : Kube.Endpoint) : targetPod? ns e = e.podKey? ns := by
  rw [targetPod?, Kube.Endpoint.podKey?]
  cases e.targetRef with
  | none => rfl
  | some t =>
    obtain ⟨_, _, kind, name, own, _, _⟩ := t
    by_cases hkind : kind = some "Pod"
    · subst hkind
      cases name <;> rfl
    · rw [Option.bind_eq_bind, Option.bind_some, if_neg hkind]
      split
      · rename_i heq
        cases heq
        exact absurd rfl hkind
      · rfl

theorem serverName_eq (address : String) :
    serverName e address = (Candidate.mk s e answer).name address := by
  rw [serverName, Candidate.name]
  cases e.targetRef.bind (·.name) <;> cases e.nodeName <;> rfl

theorem namedPort?_eq (name : String) : namedPort? s name = Candidate.portNamed? s name := by
  have hfind : (s.ports.getD []).find? (·.name == some name) =
      ((s.ports.getD []).filter (·.name = some name)).head? := by
    rw [List.head?_filter]
    congr 1
    funext x
    exact Bool.eq_iff_iff.2 (by simp)
  rw [namedPort?, Candidate.portNamed?, hfind]
  generalize ((s.ports.getD []).filter (·.name = some name)).head? = found
  rcases found with _ | ⟨_, _, _ | n, _⟩
  · rfl
  · rfl
  · have hfits : (0 ≤ n ∧ n ≤ 65535) ↔ (0 ≤ n ∧ n < 65536) := by omega
    simp only [Option.bind_eq_bind, Option.bind_some, hfits]

theorem port?_eq : port? d s = (Candidate.mk s e answer).port? d := by
  rw [port?, Candidate.port?]
  rcases d.port with _ | p
  · rcases d.servicePort with _ | n | name
    · rfl
    · rfl
    · exact namedPort?_eq name
  · rfl

/-- Whether an endpoint counts is settled by its state and by the answer about its Pod. -/
theorem live_of_leads (haddress : e.addresses ≠ []) {r : Except PassError Bool}
    (h : Leads (isLive d.ns e).run tr r) :
    ∃ live, (∃ answer, tr = (Candidate.mk s e answer).lookups d ∧
      live = decide ((Candidate.mk s e answer).IsLive d.ns)) ∧ r = .ok live := by
  rw [isLive] at h
  by_cases hleaving : e.IsLeaving
  · rw [if_pos (isTerminating_iff.2 hleaving)] at h
    obtain ⟨rfl, rfl⟩ := leads_pure.1 h
    exact ⟨_, ⟨.ok none, by simp [Candidate.lookups, hleaving],
      by simp [Candidate.IsLive, hleaving]⟩, rfl⟩
  · rw [if_neg (mt isTerminating_iff.1 hleaving), targetPod?_eq] at h
    cases hkey : e.podKey? d.ns with
    | none =>
      rw [hkey] at h
      obtain ⟨rfl, rfl⟩ := leads_pure.1 h
      exact ⟨_, ⟨.ok none, by simp [Candidate.lookups, hkey],
        by simp [Candidate.IsLive, hleaving, hkey]⟩, rfl⟩
    | some key =>
      rw [hkey] at h
      obtain ⟨answer, tr', rfl, hrest⟩ := leads_lookup.1 h
      have hasked : (Candidate.mk s e answer).lookups d = [⟨.pod key, answer⟩] := by
        simp [Candidate.lookups, hkey, haddress, hleaving]
      have hlive : (Candidate.mk s e answer).IsLive d.ns ↔ PodAnswer.Allows answer := by
        simp [Candidate.IsLive, hkey, hleaving]
      have hdone : tr' = [] ∧ r = .ok (decide ((Candidate.mk s e answer).IsLive d.ns)) := by
        rcases answer with cause | _ | p
        · obtain ⟨rfl, rfl⟩ := leads_pure.1 hrest
          exact ⟨rfl, by rw [decide_eq_true (hlive.2 trivial)]⟩
        · obtain ⟨rfl, rfl⟩ := leads_pure.1 hrest
          exact ⟨rfl, by rw [decide_eq_true (hlive.2 trivial)]⟩
        · obtain ⟨rfl, rfl⟩ := leads_pure.1 hrest
          refine ⟨rfl, ?_⟩
          rw [decide_eq_decide.2 hlive]
          congr 1
          exact Bool.eq_iff_iff.2 (Kube.Pod.isLive_iff.trans decide_eq_true_iff.symm)
      obtain ⟨rfl, rfl⟩ := hdone
      exact ⟨_, ⟨answer, hasked.symm, rfl⟩, rfl⟩

/-- What an endpoint makes. -/
theorem server_of_leads {r : Except PassError (Option StaticServer)}
    (h : Leads (endpointServer? d (port? d s) e).run tr r) :
    ∃ server, (∃ c : Candidate, (c.slice, c.endpoint) = (s, e) ∧ tr = c.lookups d ∧
      server = c.server? d) ∧ r = .ok server := by
  rw [endpointServer?] at h
  cases haddress : e.addresses with
  | nil =>
    rw [haddress] at h
    obtain ⟨rfl, rfl⟩ := leads_pure.1 h
    exact ⟨_, ⟨⟨s, e, .ok none⟩, rfl, by simp [Candidate.lookups, haddress],
      by simp [Candidate.server?, haddress]⟩, rfl⟩
  | cons address addresses =>
    rw [haddress] at h
    obtain ⟨tr₁, tr₂, live, rfl, ⟨answer, rfl, rfl⟩, hrest⟩ :=
      leads_bind_of_ok (live_of_leads (s := s) (by simp [haddress])) h
    have hserver : tr₂ = [] ∧ r = .ok ((Candidate.mk s e answer).server? d) := by
      simp only [Candidate.server?, haddress]
      by_cases hlive : (Candidate.mk s e answer).IsLive d.ns
      · rw [decide_eq_true hlive] at hrest
        obtain ⟨rfl, rfl⟩ := leads_pure.1 hrest
        rw [if_pos hlive, serverName_eq, port?_eq]
        exact ⟨rfl, rfl⟩
      · rw [decide_eq_false hlive] at hrest
        obtain ⟨rfl, rfl⟩ := leads_pure.1 hrest
        rw [if_neg hlive]
        exact ⟨rfl, rfl⟩
    obtain ⟨rfl, rfl⟩ := hserver
    exact ⟨_, ⟨⟨s, e, answer⟩, rfl, by simp, rfl⟩, rfl⟩

/-- What the endpoints of a slice make, one after the other. -/
theorem servers_of_leads {es : List Kube.Endpoint} {r : Except PassError (List StaticServer)}
    (h : Leads (endpointServers d (port? d s) es).run tr r) :
    ∃ servers, (∃ cs : List Candidate, cs.map (fun c => (c.slice, c.endpoint)) = es.map (s, ·) ∧
      tr = cs.flatMap (·.lookups d) ∧ servers = cs.filterMap (·.server? d)) ∧ r = .ok servers := by
  induction es generalizing tr r with
  | nil =>
    obtain ⟨rfl, rfl⟩ := leads_pure.1 h
    exact ⟨_, ⟨[], rfl, rfl, rfl⟩, rfl⟩
  | cons e es ih =>
    obtain ⟨tr₁, tr₂, _, rfl, ⟨c, hc, rfl, rfl⟩, h⟩ := leads_bind_of_ok server_of_leads h
    obtain ⟨tr₂, tr₃, _, rfl, ⟨cs, hcs, rfl, rfl⟩, h⟩ := leads_bind_of_ok ih h
    obtain ⟨rfl, rfl⟩ := leads_pure.1 h
    refine ⟨_, ⟨c :: cs, by simp [hc, hcs], by simp, rfl⟩, ?_⟩
    cases hserver : c.server? d <;> simp [hserver]

/-- What slices make, one after the other. -/
theorem sliceServers_of_leads {ss : List Kube.EndpointSlice}
    {r : Except PassError (List StaticServer)} (h : Leads (sliceServers d ss).run tr r) :
    ∃ servers, (∃ cs : List Candidate, cs.map (fun c => (c.slice, c.endpoint)) = places ss ∧
      tr = cs.flatMap (·.lookups d) ∧ servers = cs.filterMap (·.server? d)) ∧ r = .ok servers := by
  induction ss generalizing tr r with
  | nil =>
    obtain ⟨rfl, rfl⟩ := leads_pure.1 h
    exact ⟨_, ⟨[], rfl, rfl, rfl⟩, rfl⟩
  | cons s ss ih =>
    obtain ⟨tr₁, tr₂, _, rfl, ⟨cs, hcs, rfl, rfl⟩, h⟩ := leads_bind_of_ok servers_of_leads h
    obtain ⟨tr₂, tr₃, _, rfl, ⟨cs', hcs', rfl, rfl⟩, h⟩ := leads_bind_of_ok ih h
    obtain ⟨rfl, rfl⟩ := leads_pure.1 h
    exact ⟨_, ⟨cs ++ cs', by simp [hcs, hcs', places], by simp, rfl⟩, by simp⟩

end

/-! ## Entries and their order -/

/-- What an entry that stands for a Service makes. -/
theorem members_of_leads {d : DynamicServer} {r : Except PassError (List StaticServer)}
    (h : Leads (dynamicServers d).run tr r) :
    ∃ f : Findings, tr = f.lookups (.dynamic d) ∧ r = f.members d := by
  obtain ⟨service, tr, rfl, hservice⟩ := leads_lookup.1 h
  rcases service with cause | _ | service
  · obtain ⟨rfl, rfl⟩ := leads_throw.1 hservice
    exact ⟨{ Findings.nothing with service := .error cause }, rfl, rfl⟩
  · obtain ⟨rfl, rfl⟩ := leads_throw.1 hservice
    exact ⟨Findings.nothing, rfl, rfl⟩
  obtain ⟨slices, tr, rfl, hslices⟩ := leads_lookup.1 hservice
  rcases slices with cause | _ | ⟨s, ss⟩
  · obtain ⟨rfl, rfl⟩ := leads_throw.1 hslices
    exact ⟨⟨.ok (some service), .error cause, [], by simp⟩, rfl, rfl⟩
  · obtain ⟨rfl, rfl⟩ := leads_throw.1 hslices
    exact ⟨{ Findings.nothing with service := .ok (some service) }, rfl, rfl⟩
  obtain ⟨tr, tr', _, rfl, ⟨cs, hcs, rfl, rfl⟩, hservers⟩ :=
    leads_bind_of_ok sliceServers_of_leads hslices
  have hdone : tr' = [] ∧ r = match cs.filterMap (·.server? d) with
      | [] => .error (.noUsableEndpoints d.ns d.service)
      | server :: servers => .ok (server :: servers) := by
    cases hlist : cs.filterMap (·.server? d) with
    | nil =>
      rw [hlist] at hservers
      exact leads_throw.1 hservers
    | cons server servers =>
      rw [hlist] at hservers
      exact leads_pure.1 hservers
  obtain ⟨rfl, rfl⟩ := hdone
  refine ⟨⟨.ok (some service), .ok (s :: ss), cs, by rintro _ ⟨⟩; exact hcs⟩, ?_, rfl⟩
  rw [List.append_nil]
  rfl

/-- What an entry makes. -/
theorem entry_of_leads {e : ServerEntry} {r : Except PassError (List StaticServer)}
    (h : Leads (entryServers e).run tr r) :
    ∃ f : Findings, tr = f.lookups e ∧ r = f.servers e := by
  cases e with
  | fixed s =>
    obtain ⟨rfl, rfl⟩ := leads_pure.1 h
    exact ⟨Findings.nothing, rfl, rfl⟩
  | dynamic d => exact members_of_leads h

theorem foundServers_cons_ok {e : ServerEntry} {f : Findings} {ss : List StaticServer}
    (found : List (ServerEntry × Findings)) (h : f.servers e = .ok ss) :
    foundServers ((e, f) :: found) = (foundServers found).map (ss ++ ·) := by
  rw [foundServers, foundServers, List.mapM_cons, h]
  cases found.mapM fun x : ServerEntry × Findings => x.2.servers x.1 <;> rfl

theorem foundServers_cons_error {e : ServerEntry} {f : Findings} {cause : PassError}
    (found : List (ServerEntry × Findings)) (h : f.servers e = .error cause) :
    foundServers ((e, f) :: found) = .error cause := by
  rw [foundServers, List.mapM_cons, h]
  rfl

/-- What entries make, up to the first that fails. -/
theorem entries_of_leads {es : List ServerEntry} {r : Except PassError (List StaticServer)}
    (h : Leads (allServers es).run tr r) :
    ∃ found : List (ServerEntry × Findings), found.map (·.1) = es ∧ tr = foundLookups found ∧
      r = foundServers found := by
  induction es generalizing tr r with
  | nil =>
    obtain ⟨rfl, rfl⟩ := leads_pure.1 h
    exact ⟨[], rfl, rfl, rfl⟩
  | cons e es ih =>
    obtain ⟨tr₁, tr₂, front, rfl, he, hafter⟩ | ⟨cause, rfl, he⟩ := leads_bind.1 h
    · obtain ⟨f, rfl, hf⟩ := entry_of_leads he
      have hrest : ∃ r', r = r'.map (front ++ ·) ∧ Leads (allServers es).run tr₂ r' := by
        obtain ⟨tr₂, tr₃, back, rfl, hes, hback⟩ | ⟨cause, rfl, hes⟩ := leads_bind.1 hafter
        · obtain ⟨rfl, rfl⟩ := leads_pure.1 hback
          exact ⟨.ok back, rfl, by simpa using hes⟩
        · exact ⟨.error cause, rfl, hes⟩
      obtain ⟨r', rfl, hes⟩ := hrest
      obtain ⟨found, rfl, rfl, rfl⟩ := ih hes
      exact ⟨(e, f) :: found, rfl, by rw [foundLookups, ← hf],
        (foundServers_cons_ok found hf.symm).symm⟩
    · obtain ⟨f, rfl, hf⟩ := entry_of_leads he
      -- Nothing is looked up for the entries behind.
      exact ⟨(e, f) :: es.map (·, Findings.nothing), by simp [Function.comp_def],
        by rw [foundLookups, ← hf]; simp, (foundServers_cons_error _ hf.symm).symm⟩

/-! ## One server for each name -/

theorem firstOfName_eq (seen : List String) (ss : List StaticServer) :
    firstOfName seen ss = firstOfEachName (ss.filter (·.name ∉ seen)) := by
  induction ss generalizing seen with
  | nil => rfl
  | cons s ss ih =>
    by_cases hs : s.name ∈ seen
    · simp [firstOfName, hs, ih]
    · rw [firstOfName, if_neg hs, List.filter_cons_of_pos (by simpa using hs), ih, firstOfEachName,
        firstOfEachName, List.eraseDupsBy_cons, List.filter_filter]
      congr 3
      funext s'
      exact Bool.eq_iff_iff.2 (by simp)

end Resolution

/-- The result of a resolution, whatever its look-ups are answered. Each entry has its findings, and
what is looked up is what they say, in the order of the entries. A fixed entry is itself, one that
stands for a Service becomes its members, and the first entry that fails is the failure of the
whole. Else the servers of all entries are kept in order, of those with one name the first, and the
name, the mode, the algorithm, the check of the mode and the check list are those desired. -/
theorem Desired.resolves {τ : Type} (members : Environment Membership.interface τ) (t : τ)
    (d : Desired) :
    ∃ found : List (ServerEntry × Findings), found.map (·.1) = d.servers ∧
      d.resolve.run.trace members t = foundLookups found ∧
      (d.resolve.run.run members t).1 =
        (foundServers found).map fun ss =>
          { name := d.name, mode := d.mode, algorithm := d.algorithm, advCheck := d.advCheck
            servers := firstOfEachName ss, httpChecks := d.httpChecks } := by
  obtain ⟨tr₁, tr₂, ss, htrace, hss, h⟩ | ⟨cause, hr, hss⟩ :=
    Resolution.leads_bind.1 (Dialogue.leads_run members d.resolve.run t)
  · obtain ⟨rfl, hr⟩ := Resolution.leads_pure.1 h
    obtain ⟨found, hfound, rfl, hservers⟩ := Resolution.entries_of_leads hss
    refine ⟨found, hfound, by simpa using htrace, ?_⟩
    have hall : ss.filter (·.name ∉ ([] : List String)) = ss := by simp
    rw [hr, ← hservers, Resolution.firstOfName_eq, hall]
    rfl
  · obtain ⟨found, hfound, htrace, hservers⟩ := Resolution.entries_of_leads hss
    exact ⟨found, hfound, htrace, by rw [hr, ← hservers]; rfl⟩

/-- An endpoint that targets the Pod of that name. -/
def Kube.Endpoint.ofPod (address pod : String) : Kube.Endpoint where
  addresses := [address]
  conditions := none
  deprecatedTopology := none
  zoneHints := none
  hostname := none
  nodeName := some "node"
  targetRef := some {
    apiVersion := none, fieldPath := none, kind := some "Pod", name := some pod, ns := none
    resourceVersion := none, uid := none }
  zone := none

/-- A cluster in which every Service has these endpoints, at one port, and every Pod runs and is
ready but for one. -/
def Membership.running (endpoints : List Kube.Endpoint) (unready : Key) :
    Environment Membership.interface Unit
  | .service _, _ => (.ok (some { metadata := .empty }), ())
  | .slices _, _ =>
    (.ok [{
      metadata := .empty, addressType := "IPv4", endpoints
      ports := some [
        { appProtocol := none, name := some "http", port := some 8080, protocol := none }] }], ())
  | .pod key, _ =>
    (.ok (some {
      metadata := .empty
      status := some {
        phase := some "Running"
        conditions := some [⟨"Ready", if key = unready then "False" else "True"⟩] } }), ())

/-- A case of it: a fixed server, and three endpoints of a Service. The Pod of the first is called
like the fixed server, and that of the second is not ready. -/
theorem Desired.resolves_ready_pod :
    let members := Membership.running
      [.ofPod "10.0.0.2" "a", .ofPod "10.0.0.3" "b", .ofPod "10.0.0.4" "c"] ⟨"default", "b"⟩
    let d : Desired :=
      { name := "shop", mode := some .http, algorithm := none, advCheck := none
        servers := [.fixed ⟨"a", "10.0.0.1", some 80, some 7, none⟩,
          .dynamic ⟨"default", "api", some (.name "http"), none, some .enabled⟩]
        httpChecks := [] }
    let servers : List StaticServer := [⟨"a", "10.0.0.1", some 80, some 7, none⟩,
      ⟨"c", "10.0.0.4", some 8080, none, some .enabled⟩]
    (d.resolve.run.run members ()).1 = .ok
        { name := "shop", mode := some .http, algorithm := none, advCheck := none, servers
          httpChecks := [] } ∧
      ∃ (found : List (ServerEntry × Findings)) (ss : List StaticServer),
        found.map (·.1) = d.servers ∧ foundServers found = .ok ss ∧
          firstOfEachName ss = servers := by
  intro members d servers
  have hresult : (d.resolve.run.run members ()).1 = .ok
      { name := "shop", mode := some .http, algorithm := none, advCheck := none, servers
        httpChecks := [] } := rfl
  refine ⟨hresult, ?_⟩
  obtain ⟨found, hentries, -, hfound⟩ := Desired.resolves members () d
  rw [hresult] at hfound
  cases hservers : foundServers found with
  | ok ss =>
    rw [hservers] at hfound
    exact ⟨found, ss, hentries, hservers, (congrArg (·.servers) (Except.ok.inj hfound)).symm⟩
  | error e =>
    rw [hservers] at hfound
    cases hfound

end ProxySync
