import ProxySync.Proofs.Index.Table
import ProxySync.Resolution
/-!
# What a resolution looks up

A resolution asks about the Services of the dynamic entries and about no other, and if nothing
stops it, about all of them.

## Main definitions

* `Resolution.asked`: the Services asked about in the course of a resolution.
* `Desired.LooksUp`: with some answers the backend's resolution asks about the Service.

## Main statements

* `Desired.looksUp_iff`: those are the Services that the backend refers to.
-/
namespace ProxySync

/-- The Service that a look-up is about; one of a Pod is about none. -/
def Membership.Call.service? : Membership.Call → Option Key
  | .service key => some key
  | .slices key => some key
  | .pod _ => none

namespace Resolution
variable {α β τ : Type} {members : Environment Membership.interface τ} {t : τ}

/-- The Services asked about in the course of a resolution. -/
def asked (members : Environment Membership.interface τ) (x : ResolutionM α) (t : τ) : List Key :=
  (x.run.trace members t).filterMap (·.call.service?)

/-- Where a step succeeded the next one goes on. -/
theorem run_bind (x : ResolutionM α) (f : α → ResolutionM β) (t : τ) :
    (x >>= f).run.run members t = match x.run.run members t with
      | (.ok a, t') => (f a).run.run members t'
      | (.error e, t') => (.error e, t') := by
  refine (Dialogue.run_bind members x.run _ t).trans ?_
  rcases x.run.run members t with ⟨_ | _, _⟩ <;> rfl

theorem asked_bind (x : ResolutionM α) (f : α → ResolutionM β) (t : τ) :
    asked members (x >>= f) t = asked members x t ++ match x.run.run members t with
      | (.ok a, t') => asked members (f a) t'
      | (.error _, _) => [] := by
  have htrace := Dialogue.trace_bind members x.run
    (ExceptT.bindCont f : Except PassError α → Dialogue Membership.interface (Except PassError β)) t
  refine (congrArg (List.filterMap fun y => y.call.service?) htrace).trans ?_
  rw [List.filterMap_append, asked]
  rcases x.run.run members t with ⟨_ | _, _⟩ <;> rfl

/-! ## Nothing else is asked about -/

/-- Whatever is answered, the resolution asks about no other Services than these. -/
def AsksOnly (members : Environment Membership.interface τ) (keys : List Key) (x : ResolutionM α) :
    Prop :=
  ∀ t, ∀ key ∈ asked members x t, key ∈ keys

variable {keys : List Key}

theorem asksOnly_pure (a : α) : AsksOnly members keys (pure a) := nofun

theorem asksOnly_throw (e : PassError) : AsksOnly members keys (throw e : ResolutionM α) := nofun

theorem AsksOnly.bind {x : ResolutionM α} {f : α → ResolutionM β} (hx : AsksOnly members keys x)
    (hf : ∀ a, AsksOnly members keys (f a)) : AsksOnly members keys (x >>= f) := by
  intro t key hkey
  rw [asked_bind] at hkey
  rcases List.mem_append.1 hkey with hkey | hkey
  · exact hx t key hkey
  · revert hkey
    rcases x.run.run members t with ⟨_ | a, t'⟩
    · exact nofun
    · exact hf a t' key

theorem AsksOnly.mono {keys' : List Key} {x : ResolutionM α} (hx : AsksOnly members keys x)
    (h : ∀ key ∈ keys, key ∈ keys') : AsksOnly members keys' x :=
  fun t key hkey => h key (hx t key hkey)

theorem asksOnly_getPod (key : Key) : AsksOnly members keys (getPod key) := nofun

theorem asksOnly_getService (key : Key) : AsksOnly members [key] (getService key) :=
  fun _ _ hkey => hkey

theorem asksOnly_listSlices (key : Key) : AsksOnly members [key] (listSlices key) :=
  fun _ _ hkey => hkey

theorem asksOnly_isLive (ns : String) (e : Kube.Endpoint) :
    AsksOnly members keys (isLive ns e) := by
  rw [isLive]
  split
  · exact asksOnly_pure _
  · cases targetPod? ns e with
    | none => exact asksOnly_pure _
    | some key =>
      refine (asksOnly_getPod key).bind fun found => ?_
      rcases found with _ | _ | _ <;> exact asksOnly_pure _

theorem asksOnly_endpointServer (d : DynamicServer) (port : Option UInt16) (e : Kube.Endpoint) :
    AsksOnly members keys (endpointServer? d port e) := by
  rw [endpointServer?]
  cases e.addresses.head? with
  | none => exact asksOnly_pure _
  | some address =>
    refine (asksOnly_isLive d.ns e).bind fun live => ?_
    cases live <;> exact asksOnly_pure _

theorem asksOnly_endpointServers (d : DynamicServer) (port : Option UInt16)
    (es : List Kube.Endpoint) : AsksOnly members keys (endpointServers d port es) := by
  induction es with
  | nil => exact asksOnly_pure _
  | cons e es ih =>
    exact (asksOnly_endpointServer d port e).bind fun _ => ih.bind fun _ => asksOnly_pure _

theorem asksOnly_sliceServers (d : DynamicServer) (ss : List Kube.EndpointSlice) :
    AsksOnly members keys (sliceServers d ss) := by
  induction ss with
  | nil => exact asksOnly_pure _
  | cons s ss ih =>
    exact (asksOnly_endpointServers d _ s.endpoints).bind fun _ =>
      ih.bind fun _ => asksOnly_pure _

theorem asksOnly_dynamicServers (d : DynamicServer) :
    AsksOnly members [d.serviceKey] (dynamicServers d) := by
  refine (asksOnly_getService d.serviceKey).bind fun found => ?_
  rcases found with cause | _ | _
  · exact asksOnly_throw _
  · exact asksOnly_throw _
  · refine (asksOnly_listSlices d.serviceKey).bind fun listed => ?_
    cases listed with
    | error cause => exact asksOnly_throw _
    | ok slices =>
      dsimp only
      split
      · exact asksOnly_throw _
      · refine (asksOnly_sliceServers d slices).bind fun servers => ?_
        split
        · exact asksOnly_throw _
        · exact asksOnly_pure _

theorem asksOnly_allServers (es : List ServerEntry) :
    AsksOnly members (es.filterMap (·.serviceKey?)) (allServers es) := by
  induction es with
  | nil => exact asksOnly_pure _
  | cons e es ih =>
    have hlater : AsksOnly members ((e :: es).filterMap (·.serviceKey?)) (allServers es) := by
      refine ih.mono fun key hkey => ?_
      rw [List.filterMap_cons]
      split
      · exact hkey
      · exact List.mem_cons_of_mem _ hkey
    refine AsksOnly.bind ?_ fun _ => hlater.bind fun _ => asksOnly_pure _
    cases e with
    | fixed s => exact asksOnly_pure _
    | dynamic d =>
      refine (asksOnly_dynamicServers d).mono fun key hkey => ?_
      rw [List.mem_singleton.1 hkey]
      exact List.mem_cons_self

/-! ## All are asked about -/

/-- Look-ups that find every Service, with an endpoint that can be used. -/
def plentiful : Environment Membership.interface Unit
  | .service _, _ => (.ok (some { metadata := .empty }), ())
  | .slices _, _ =>
    let endpoint : Kube.Endpoint :=
      { addresses := ["192.0.2.1"], conditions := none, deprecatedTopology := none
        zoneHints := none, hostname := none, nodeName := none, targetRef := none, zone := none }
    (.ok [{ metadata := .empty, addressType := "IPv4", endpoints := [endpoint], ports := none }],
      ())
  | .pod _, _ => (.ok none, ())

/-- With such look-ups every entry has servers, and its Service is asked about. -/
theorem entryServers_plentiful (e : ServerEntry) :
    (∃ servers, (entryServers e).run.run plentiful () = (.ok servers, ())) ∧
      ∀ key ∈ e.serviceKey?, key ∈ asked plentiful (entryServers e) () := by
  cases e with
  | fixed s => exact ⟨⟨_, rfl⟩, nofun⟩
  | dynamic d =>
    refine ⟨⟨_, rfl⟩, fun key hkey => ?_⟩
    cases hkey
    exact List.mem_cons_self

theorem allServers_plentiful (es : List ServerEntry) :
    (∃ servers, (allServers es).run.run plentiful () = (.ok servers, ())) ∧
      ∀ key ∈ es.filterMap (·.serviceKey?), key ∈ asked plentiful (allServers es) () := by
  induction es with
  | nil => exact ⟨⟨_, rfl⟩, nofun⟩
  | cons e es ih =>
    obtain ⟨⟨front, hfront⟩, hasked⟩ := entryServers_plentiful e
    obtain ⟨⟨rest, hrest⟩, hlater⟩ := ih
    have hall : allServers (e :: es) = (entryServers e >>= fun front =>
      allServers es >>= fun rest => pure (front ++ rest)) := rfl
    refine ⟨⟨front ++ rest, ?_⟩, fun key hkey => ?_⟩
    · rw [hall, run_bind, hfront]
      dsimp only
      rw [run_bind, hrest]
      rfl
    · rw [hall, asked_bind, hfront]
      dsimp only
      rw [asked_bind]
      rw [List.filterMap_cons] at hkey
      split at hkey
      · exact List.mem_append_right _ (List.mem_append_left _ (hlater key hkey))
      · rename_i k hk
        rcases List.mem_cons.1 hkey with rfl | hkey
        · exact List.mem_append_left _ (hasked key hk)
        · exact List.mem_append_right _ (List.mem_append_left _ (hlater key hkey))

end Resolution

namespace Desired
variable {d : Desired} {service : Key}

/-- With some answers the resolution of the backend asks about the Service. -/
def LooksUp (d : Desired) (service : Key) : Prop :=
  ∃ (τ : Type) (members : Environment Membership.interface τ) (t : τ),
    service ∈ Resolution.asked members d.resolve t

theorem contains_serviceKeys :
    d.serviceKeys.contains service = true ↔ service ∈ d.servers.filterMap (·.serviceKey?) := by
  have hfold (keys : List Key) (t : Table Key Unit) :
      (keys.foldl (fun t k => t.insert k ()) t).contains service = true ↔
        service ∈ keys ∨ t.contains service = true := by
    induction keys generalizing t with
    | nil => simp
    | cons k keys ih =>
      rw [List.foldl_cons, ih, Table.contains_insert, List.mem_cons, @eq_comm _ k service,
        or_left_comm, or_assoc]
  rw [serviceKeys, hfold]
  simp

theorem asked_resolve {τ : Type} {members : Environment Membership.interface τ} {t : τ} :
    Resolution.asked members d.resolve t =
      Resolution.asked members (Resolution.allServers d.servers) t := by
  rw [resolve, Resolution.asked_bind]
  rcases (Resolution.allServers d.servers).run.run members t with ⟨_ | _, _⟩ <;>
    exact List.append_nil _

/-- A backend refers to the Services that its resolution may ask about. -/
theorem looksUp_iff : d.LooksUp service ↔ d.serviceKeys.contains service = true := by
  rw [contains_serviceKeys]
  constructor
  · rintro ⟨τ, members, t, hasked⟩
    rw [asked_resolve] at hasked
    exact Resolution.asksOnly_allServers d.servers t service hasked
  · intro hkey
    refine ⟨Unit, Resolution.plentiful, (), ?_⟩
    rw [asked_resolve]
    exact (Resolution.allServers_plentiful d.servers).2 service hkey

end Desired
end ProxySync
