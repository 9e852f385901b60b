import ProxySync.Proofs.DataPlane.Address
import ProxySync.Proofs.Json.Sorted
import ProxySync.Proofs.Resolution.Members
import ProxySync.Proofs.Resource.WellFormed
import ProxySync.Proofs.Session.Questions
/-!
# The ports of resolved servers

The port of an entry is checked when the entry is. That of a Service is not: a numeral of 16 bits is
taken as it is, and so is what a slice gives under a name. So the servers of an accepted
specification have ports between 1 and 65535 or none, unless their entry leaves the port to a
Service where it is zero.

## Main definitions

* `IsPort`: a port that a server can listen on.
* `ServerSpec.TakesZero`: an entry takes the port zero from its Service.
* `ServerSpec.Yields`: what an entry can make of the port of a server.

## Main statements

* `Spec.ports_resolved`: whence the ports of resolved servers, and of the bodies that are sent.
* `Spec.not_isPort_resolved`: an accepted specification with a server at port zero.
-/
namespace ProxySync

/-- The port is unset or between 1 and 65535. -/
def IsPort (port : Option UInt16) : Prop := ∀ p ∈ port, 1 ≤ p.toNat ∧ p.toNat ≤ 65535

instance (port : Option UInt16) : Decidable (IsPort port) :=
  inferInstanceAs (Decidable (∀ p ∈ port, _))

/-- The port field of a body is missing or a number between 1 and 65535. -/
def Json.HasPort (j : Json) : Prop :=
  ∀ port, j.field? "port" = some port → ∃ n : Nat, port = .int n ∧ 1 ≤ n ∧ n ≤ 65535

/-- The slice is among the answers of a run. -/
def Kube.EndpointSlice.IsTold (slice : Kube.EndpointSlice)
    (tr : List (Exchange Membership.interface)) : Prop :=
  ∃ service slices, ⟨.slices service, .ok slices⟩ ∈ tr ∧ slice ∈ slices

/-- The slice gives zero as the port of that name; the first port of a name is the one that
counts. -/
def Kube.EndpointSlice.NamesZero (slice : Kube.EndpointSlice) (name : String) : Prop :=
  ∃ p, ((slice.ports.getD []).find? fun p => p.name = some name) = some p ∧ p.port = some 0

/-- The entry has no port of its own and takes the port zero from its Service: the reference says so
by number, or by a name for which the slice gives zero. -/
def Resource.ServerSpec.TakesZero (e : Resource.ServerSpec) (slice : Kube.EndpointSlice) : Prop :=
  e.port = none ∧ ∃ (ref : Resource.ServiceRef) (text : String),
    e.valueFrom = some ⟨some ref⟩ ∧ Resource.SetTo ref.port text ∧
    (Numeral.uint16? text = some 0 ∨ Numeral.uint16? text = none ∧ slice.NamesZero text)

/-- The entry makes a server with that port: a static one with a good port, or one from a slice that
was told, whose port is good unless the entry takes zero from there. -/
inductive Resource.ServerSpec.Yields (e : Resource.ServerSpec)
    (tr : List (Exchange Membership.interface)) (port : Option UInt16) : Prop
  | fixed (static : e.IsStatic) (good : IsPort port)
  | resolved {slice : Kube.EndpointSlice} (dynamic : e.IsDynamic) (told : slice.IsTold tr)
      (good : IsPort port ↔ ¬ e.TakesZero slice)

/-- The request creates or replaces a server of a backend with this body. -/
def DataPlane.Request.WritesServer (q : Request) (backend : String) (body : Json) : Prop :=
  q.body = some body ∧ q.endpoint.area = .configuration ∧
    ∃ rest, q.endpoint.segments = "backends" :: backend :: "servers" :: rest

/-! ## The ports of an entry -/

theorem isPort_none : IsPort none := nofun

theorem isPort_some {p : UInt16} : IsPort (some p) ↔ p ≠ 0 := by
  have hlt := p.toNat_lt
  have hzero : p.toNat = 0 ↔ p = 0 := by rw [← UInt16.toNat_inj]; rfl
  simp only [IsPort, Option.mem_some_iff, forall_eq', ne_eq, ← hzero]
  omega

/-- A port that was checked is a good one. -/
theorem isPort_of_hasPort {e : Resource.ServerSpec} {port : Option UInt16} (h : e.HasPort)
    (hsame : port.map (fun p => (p.toNat : Int)) = e.port.map (·.toInt)) : IsPort port := by
  rintro p ⟨⟩
  obtain ⟨q, hq, heq⟩ := Option.map_eq_some_iff.1 hsame.symm
  have hrange := h q hq
  simp only at heq
  omega

namespace Resolution
open Dialogue (Leads)
open Resource

/-- By name a slice gives a good port, or none, or zero. -/
theorem isPort_portNamed? {slice : Kube.EndpointSlice} {name : String} :
    IsPort (Candidate.portNamed? slice name) ↔ ¬ slice.NamesZero name := by
  rw [Candidate.portNamed?, Kube.EndpointSlice.NamesZero, List.head?_filter]
  generalize (slice.ports.getD []).find? _ = found
  rcases found with _ | ⟨_, _, _ | n, _⟩
  · simp [isPort_none]
  · simp [isPort_none]
  · by_cases hfits : 0 ≤ n ∧ n < 65536
    · simp only [if_pos hfits, isPort_some, Option.some.injEq, exists_eq_left', not_iff_not]
      rw [← UInt16.toNat_inj, UInt16.toNat_ofNat']
      simp
      omega
    · simp [if_neg hfits, isPort_none]
      omega

/-- What the servers of an entry that stands for a Service have for a port. -/
theorem isPort_port? {e : ServerSpec} {ns : String} {d : DynamicServer} {c : Candidate}
    (hwell : e.IsWellFormed) (hmeans : e.Means ns (.dynamic d)) :
    IsPort (c.port? d) ↔ ¬ e.TakesZero c.slice := by
  obtain _ | @⟨ref, _, hsource, -, -, hservicePort, hport, -⟩ := hmeans
  rw [Candidate.port?]
  cases hp : d.port with
  | some p =>
    have hgood := isPort_of_hasPort hwell.port hport
    rw [hp] at hport hgood
    obtain ⟨q, hq, -⟩ := Option.map_eq_some_iff.1 hport.symm
    exact iff_of_true hgood fun h => by simp [h.1] at hq
  | none =>
    have hnone : e.port = none := by simpa [hp, eq_comm] using hport
    obtain ⟨text, htext, hparsed⟩ | ⟨hunset, hparsed⟩ := hservicePort
    · have htakes : e.TakesZero c.slice ↔ Numeral.uint16? text = some 0 ∨
          Numeral.uint16? text = none ∧ c.slice.NamesZero text := by
        constructor
        · rintro ⟨-, ref', text', hsource', htext', hzero⟩
          cases hsource.symm.trans hsource'
          cases htext.1.symm.trans htext'.1
          exact hzero
        · exact fun hzero => ⟨hnone, ref, text, hsource, htext, hzero⟩
      rw [hparsed, ServicePort.parse, htakes]
      cases hnum : Numeral.uint16? text with
      | some n => simp [isPort_some]
      | none => simp [isPort_portNamed?]
    · rw [hparsed]
      refine iff_of_true isPort_none ?_
      rintro ⟨-, ref', text, hsource', htext, -⟩
      cases hsource.symm.trans hsource'
      exact hunset ⟨text, htext⟩

/-! ## The ports of all entries -/

theorem mem_of_mem_firstOfName {x : StaticServer} {seen : List String} {ss : List StaticServer}
    (h : x ∈ firstOfName seen ss) : x ∈ ss := by
  induction ss generalizing seen with
  | nil => cases h
  | cons s ss ih =>
    rw [firstOfName] at h
    split at h
    · exact List.mem_cons_of_mem _ (ih h)
    · rcases List.mem_cons.1 h with rfl | h
      · exact List.mem_cons_self
      · exact List.mem_cons_of_mem _ (ih h)

/-- A server comes from one of the entries, all of whose look-ups were made. -/
theorem mem_of_foundServers {found : List (ServerEntry × Findings)} {ss : List StaticServer}
    {x : StaticServer} (h : foundServers found = .ok ss) (hx : x ∈ ss) :
    ∃ e f own, (e, f) ∈ found ∧ f.servers e = .ok own ∧ x ∈ own ∧
      ∀ y ∈ f.lookups e, y ∈ foundLookups found := by
  induction found generalizing ss with
  | nil =>
    cases h
    cases hx
  | cons p found ih =>
    obtain ⟨e, f⟩ := p
    cases hf : f.servers e with
    | error cause =>
      rw [foundServers_cons_error found hf] at h
      cases h
    | ok own =>
      rw [foundServers_cons_ok found hf] at h
      cases hrest : foundServers found with
      | error cause =>
        rw [hrest] at h
        cases h
      | ok rest =>
        rw [hrest] at h
        cases h
        rw [foundLookups, hf]
        rcases List.mem_append.1 hx with hx | hx
        · exact ⟨e, f, own, List.mem_cons_self, hf, hx, fun y hy => List.mem_append_left _ hy⟩
        · obtain ⟨e', f', own', hmem, hf', hx', hlooked⟩ := ih hrest hx
          exact ⟨e', f', own', List.mem_cons_of_mem _ hmem, hf', hx',
            fun y hy => List.mem_append_right _ (hlooked y hy)⟩

/-- A member of a Service is made by an endpoint in a slice that was told. -/
theorem server?_of_members {d : DynamicServer} {f : Findings} {own : List StaticServer}
    {x : StaticServer} (h : f.members d = .ok own) (hx : x ∈ own) :
    ∃ c : Candidate, c.server? d = some x ∧ c.slice.IsTold (f.lookups (.dynamic d)) := by
  rw [Findings.members] at h
  split at h
  case h_5 service slice slices hservice hslices =>
    have hown : own = f.candidates.filterMap (·.server? d) := by
      split at h
      · cases h
      · rename_i hlist
        rw [hlist]
        exact (Except.ok.inj h).symm
    obtain ⟨c, hc, hserver⟩ := List.mem_filterMap.1 (hown ▸ hx)
    have hplace : (c.slice, c.endpoint) ∈ places (slice :: slices) := by
      rw [← f.complete _ hslices]
      exact List.mem_map_of_mem hc
    obtain ⟨slice', hslice', hin⟩ := List.mem_flatMap.1 hplace
    obtain ⟨_, -, heq⟩ := List.mem_map.1 hin
    cases heq
    exact ⟨c, hserver, d.serviceKey, slice :: slices, by simp [Findings.lookups, hservice, hslices],
      hslice'⟩
  all_goals cases h

theorem port_of_server? {d : DynamicServer} {c : Candidate} {x : StaticServer}
    (h : c.server? d = some x) : x.port = c.port? d := by
  rw [Candidate.server?] at h
  split at h
  · cases h
  · split at h
    · cases h
      rfl
    · cases h

/-- Whence the port of a resolved server. -/
theorem yields_of_leads {s : Spec} {ns : String} {d : Desired} {r : Resolved} {x : StaticServer}
    {tr : List (Exchange Membership.interface)} (hwell : s.IsWellFormed) (hasks : s.Asks ns d)
    (h : Leads d.resolve.run tr (.ok r)) (hx : x ∈ r.servers) :
    ∃ e ∈ s.servers, e.Yields tr x.port := by
  obtain ⟨tr₁, tr₂, ss, rfl, hss, hdone⟩ | ⟨_, hr, _⟩ := leads_bind.1 h
  swap
  · cases hr
  obtain ⟨rfl, hr⟩ := leads_pure.1 hdone
  cases hr
  rw [List.append_nil]
  obtain ⟨found, hfound, rfl, hservers⟩ := entries_of_leads hss
  obtain ⟨entry, f, own, hmem, hown, hxown, hlooked⟩ :=
    mem_of_foundServers hservers.symm (mem_of_mem_firstOfName hx)
  have hentry : entry ∈ d.servers := hfound ▸ List.mem_map_of_mem hmem
  obtain ⟨e, he, hmeans⟩ := hasks.exists_means hentry
  have hgood := hwell.servers.each e he
  refine ⟨e, he, ?_⟩
  cases entry with
  | fixed y =>
    cases hown
    obtain rfl := List.mem_singleton.1 hxown
    obtain ⟨hsource, hname, haddress, hport, -, -⟩ := hmeans
    exact .fixed ⟨⟨_, hname⟩, ⟨_, haddress⟩, hsource⟩ (isPort_of_hasPort hgood.port hport)
  | dynamic dyn =>
    obtain ⟨c, hserver, service, slices, htold, hslice⟩ := server?_of_members hown hxown
    have hdynamic : e.IsDynamic := by
      cases hmeans with
      | dynamic hsource =>
        exact hgood.form.resolve_left fun hs => by simpa [hsource] using hs.source
    refine .resolved hdynamic ⟨service, slices, hlooked _ htold, hslice⟩ ?_
    rw [port_of_server? hserver]
    exact isPort_port? hgood hmeans

end Resolution

/-! ## The ports that are sent -/

theorem field?_port_toWire (x : StaticServer) :
    x.toWire.toJson.field? "port" = x.port.map fun p => .int p.toNat := by
  rw [Wire.Server.toJson, Json.field?_ofFields (by simp)]
  change x.toWire.port.map Json.ofInt64 = _
  rw [StaticServer.toWire, Option.map_map]
  refine congrArg (x.port.map ·) (funext fun p => congrArg Json.int ?_)
  have hlt := p.toNat_lt
  exact Int64.toInt_ofInt_of_le (by omega) (by omega)

/-- The body of a server has a good port just if the server has. -/
theorem hasPort_toWire (x : StaticServer) : x.toWire.toJson.HasPort ↔ IsPort x.port := by
  rw [Json.HasPort, field?_port_toWire]
  cases x.port with
  | none => simp [isPort_none]
  | some p =>
    simp only [Option.map_some, Option.some.injEq, forall_eq', Json.int.injEq, Int.natCast_inj,
      exists_eq_left', IsPort, Option.mem_some_iff]

namespace DataPlane.Client
open Request
variable {c : Client} {d : Resolved}

/-- What a request writes of servers are servers of the backend. -/
def WritesOwn (d : Resolved) (q : Request) : Prop :=
  ∀ body, q.WritesServer d.name body → ∃ x ∈ d.servers, body = x.toWire.toJson

theorem writesOwn_of_body_eq_none {q : Request} (h : q.body = none) : WritesOwn d q :=
  fun _ hw => by simp [WritesServer, h] at hw

theorem AsksDefinition.writesOwn {q : Request} {wanted : Wire.Backend}
    (h : q.AsksDefinition wanted) : WritesOwn d q := by
  rintro body ⟨-, -, rest, hrest⟩
  cases h <;> simp [scopedRequest, versionRequest, versionEndpoint] at hrest

theorem AsksChecks.writesOwn {q : Request} {backend : String} (h : q.AsksChecks backend) :
    WritesOwn d q := by
  rintro body ⟨-, -, rest, hrest⟩
  cases h <;> simp [scopedRequest, versionRequest, versionEndpoint] at hrest

theorem only_writesOwn_ensureServer {x : StaticServer} (hx : x ∈ d.servers) :
    Only (WritesOwn d) (c.ensureServer d.name x.toWire) := by
  have hown (method : Method) (segments : List String) (q : String × String) :
      WritesOwn d (scopedRequest method segments (some x.toWire.toJson) q) := by
    rintro body ⟨hbody, -⟩
    exact ⟨x, hx, (Option.some.inj hbody).symm⟩
  exact only_ensureServer_of (writesOwn_of_body_eq_none rfl)
    (fun _ => writesOwn_of_body_eq_none rfl) (hown _ _) (hown _ _)

theorem only_writesOwn_ensureBackend : Only (WritesOwn d) (c.ensureBackend d) := by
  have hservers : ∀ w ∈ d.wireServers, Only (WritesOwn d) (c.ensureServer d.name w) := by
    intro w hw
    obtain ⟨x, hx, rfl⟩ := List.mem_map.1 hw
    exact only_writesOwn_ensureServer hx
  have hlist : Only (WritesOwn d) (c.listServers d.name) :=
    poses_list.only (writesOwn_of_body_eq_none rfl) fun _ => writesOwn_of_body_eq_none rfl
  have hsync : Only (WritesOwn d) (c.syncServers d.name d.wireServers) :=
    (only_ensureServers_of hservers _).bind fun _ => hlist.bind fun _ =>
      only_deleteServers_of (writesOwn_of_body_eq_none rfl)
        (fun _ _ => writesOwn_of_body_eq_none rfl) _ _
  exact ((asks_ensureDefinition d.wireBackend).mono fun _ => AsksDefinition.writesOwn).bind fun _ =>
    ((asks_ensureHttpChecks d.name d.wireChecks).mono fun _ => AsksChecks.writesOwn).bind fun _ =>
      hsync.bind fun _ => only_pure _

theorem only_writesOwn_apply : Only (WritesOwn d) (c.apply d) :=
  have hclose : Only (WritesOwn d) c.close :=
    only_close (fun _ => writesOwn_of_body_eq_none rfl) fun _ => writesOwn_of_body_eq_none rfl
  (only_openTransaction (writesOwn_of_body_eq_none rfl)
    fun _ => writesOwn_of_body_eq_none rfl).bind fun _ =>
      (only_writesOwn_ensureBackend.bind fun _ => hclose.bind fun _ => only_pure _).orAbort
        fun _ => writesOwn_of_body_eq_none rfl

end DataPlane.Client

/-- Whence the ports of the servers that an accepted specification is resolved to: each server is
made by an entry, by a static one with a good port, and by one that stands for a Service with a good
port unless the entry takes zero from a slice that was told. What is written of servers, by a pass
against any Data Plane, has a good port just if the server has that is written. -/
theorem Resource.Spec.ports_resolved {σ τ : Type} {s : Resource.Spec} {ns : String} {d : Desired}
    {r : Resolved} (members : Environment Membership.interface τ) (t : τ) (c : DataPlane.Client)
    (env : Environment DataPlane.interface σ) (w : σ) (hvalid : s.validate ns = .ok d)
    (hresolve : (d.resolve.run.run members t).1 = .ok r) :
    (∀ x ∈ r.servers, ∃ e ∈ s.servers, e.Yields (d.resolve.run.trace members t) x.port) ∧
      ∀ y ∈ Sent.ofTrace (((c.apply r).start .fresh).trace env w), ∀ body,
        y.request.WritesServer r.name body →
          ∃ x ∈ r.servers, body = x.toWire.toJson ∧ (body.HasPort ↔ IsPort x.port) := by
  obtain ⟨hwell, hasks⟩ := Resource.Spec.asks_of_validate hvalid
  constructor
  · have hleads := Dialogue.leads_run members d.resolve.run t
    rw [hresolve] at hleads
    exact fun x hx => Resolution.yields_of_leads hwell hasks hleads hx
  · intro y hy body hbody
    obtain ⟨x, hx, rfl⟩ :=
      DataPlane.Client.only_writesOwn_apply _ _ _ _ (SessionM.conduct_run env _ _ w) y hy body hbody
    exact ⟨x, hx, rfl, hasPort_toWire x⟩

/-! ## A Service whose port is zero -/

/-- A cluster in which every Service is there with the same slices, and no Pod. -/
def Membership.serving (slices : List Kube.EndpointSlice) : Environment Membership.interface Unit
  | .service _, _ => (.ok (some { metadata := .empty }), ())
  | .slices _, _ => (.ok slices, ())
  | .pod _, _ => (.ok none, ())

/-- A Data Plane that has nothing and accepts everything. -/
def DataPlane.accepting : Environment DataPlane.interface Unit
  | .request { method := .get, endpoint := { segments := ["version"], .. }, .. }, _ =>
    (.answered 200 "1", ())
  | .request { method := .get, endpoint := { segments := [_, _, "servers"], .. }, .. }, _ =>
    (.answered 200 "[]", ())
  | .request { method := .get, .. }, _ => (.answered 404 "", ())
  | .request _, _ => (.answered 201 "\x7b\"id\": \"t\"\x7d", ())
  | .measure _, _ => ((), ())

/-- A slice with one endpoint and one port. -/
def Kube.EndpointSlice.single (address port : String) (number : Int) : Kube.EndpointSlice where
  metadata := .empty
  addressType := "IPv4"
  endpoints := [{
    addresses := [address], conditions := none, deprecatedTopology := none, zoneHints := none
    hostname := none, nodeName := none, targetRef := none, zone := none }]
  ports := some [{ appProtocol := none, name := some port, port := some number, protocol := none }]

/-- A specification with one entry, whose servers have a port of the Service. -/
def Resource.Spec.following (service port : String) : Resource.Spec where
  name := "shop"
  mode := none
  balance := none
  advCheck := none
  servers := [{
    name := none, address := none, port := none, id := none, check := none
    valueFrom := some { serviceRef := some { ns := none, name := service, port := some port } } }]
  httpChecks := []

/-- What such a specification asks for. -/
def Desired.following (ns service : String) (servicePort : ServicePort) : Desired where
  name := "shop"
  mode := none
  algorithm := none
  advCheck := none
  servers :=
    [.dynamic { ns, service, servicePort := some servicePort, port := none, check := none }]
  httpChecks := []

/-- What it is resolved to by one endpoint. -/
def Resolved.single (address : String) (port : UInt16) : Resolved where
  name := "shop"
  mode := none
  algorithm := none
  advCheck := none
  servers := [{ name := address, address, port := some port, id := none, check := none }]
  httpChecks := []

/-- A case of it: the port that the Service gives under a name. -/
theorem Resource.Spec.ports_resolved_named :
    let members := Membership.serving [.single "10.0.0.7" "http" 8080]
    let s := Resource.Spec.following "shop" "http"
    let d := Desired.following "web" "shop" (.name "http")
    let r := Resolved.single "10.0.0.7" 8080
    s.validate "web" = .ok d ∧ (d.resolve.run.run members ()).1 = .ok r ∧
      ∀ x ∈ r.servers, ∃ e ∈ s.servers, e.Yields (d.resolve.run.trace members ()) x.port := by
  intro members s d r
  have hvalid : s.validate "web" = .ok d := by decide +kernel
  have hresolve : (d.resolve.run.run members ()).1 = .ok r := by decide +kernel
  exact ⟨hvalid, hresolve, (ports_resolved members ()
    (DataPlane.Client.onThisHost 5555 "admin" "secret") DataPlane.accepting () hvalid hresolve).1⟩

/-- Two accepted specifications with a server at port zero, which is sent to the Data Plane: the
reference says zero by number, or by a name for which a slice gives zero. -/
theorem Resource.Spec.not_isPort_resolved :
    let members := Membership.serving [.single "10.0.0.7" "http" 0]
    let c := DataPlane.Client.onThisHost 5555 "admin" "secret"
    let r := Resolved.single "10.0.0.7" 0
    (∀ p ∈ [("0", ServicePort.number 0), ("http", ServicePort.name "http")],
      (Resource.Spec.following "shop" p.1).validate "web" = .ok (.following "web" "shop" p.2) ∧
        ((Desired.following "web" "shop" p.2).resolve.run.run members ()).1 = .ok r) ∧
      (∃ x ∈ r.servers, ¬ IsPort x.port) ∧
      ∃ y ∈ Sent.ofTrace (((c.apply r).start .fresh).trace DataPlane.accepting ()), ∃ body,
        y.request.WritesServer r.name body ∧ ¬ body.HasPort := by
  intro members c r
  have hsent : (Sent.ofTrace (((c.apply r).start .fresh).trace DataPlane.accepting ())).any
      (fun y => y.request.body.isSome && (decide (y.request.endpoint.area = .configuration) &&
        y.request.endpoint.segments == ["backends", "shop", "servers"])) = true := by
    decide +kernel
  refine ⟨by decide +kernel, by decide +kernel, ?_⟩
  obtain ⟨y, hy, hrequest⟩ := List.any_eq_true.1 hsent
  simp only [Bool.and_eq_true, decide_eq_true_eq, beq_iff_eq] at hrequest
  obtain ⟨hbody, harea, hsegments⟩ := hrequest
  obtain ⟨body, hbody⟩ := Option.isSome_iff_exists.1 hbody
  have hwrites : y.request.WritesServer r.name body := ⟨hbody, harea, [], hsegments⟩
  -- There is only one server, so that is what is written.
  obtain ⟨x, hx, rfl⟩ := DataPlane.Client.only_writesOwn_apply _ _ _ _
    (SessionM.conduct_run DataPlane.accepting _ _ ()) y hy body hwrites
  obtain rfl := List.mem_singleton.1 hx
  exact ⟨y, hy, _, hwrites, fun h => absurd ((hasPort_toWire _).1 h 0 rfl).1 (by decide)⟩

end ProxySync
